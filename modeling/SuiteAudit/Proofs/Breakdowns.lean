import SuiteAudit.Audit.Analysis
import SuiteAudit.Proofs.Accepted
import SuiteAudit.Proofs.Raws

/-!
# Breakdowns of raw scores

A breakdown of one raw score for each category has a row for each (`rowsOf_eq`). What a category
gains by lending depends on which categories could be measured, not on their raw scores
(`lend_congr`), and it is never negative where weights are balanced. Over the rationals there is no
fault on the way from a suite to its score (`audit_rat`).
-/

namespace SuiteAudit

/-! ### Raw scores by category -/

section

variable {raws : List CategoryRaw}

theorem rawOf?_of_mem (nodup : (raws.map (·.category)).Nodup) {r : CategoryRaw} (h : r ∈ raws) :
    rawOf? raws r.category = some r := by
  cases hFound : rawOf? raws r.category with
  | none =>
    rw [rawOf?, List.find?_eq_none] at hFound
    exact absurd (beq_self_eq_true r.category) (hFound r (List.mem_reverse.mpr h))
  | some q =>
    have hMem : q ∈ raws := List.mem_reverse.mp (List.mem_of_find?_eq_some hFound)
    have hSame : q.category = r.category := by simpa using List.find?_some hFound
    rw [List.inj_on_of_nodup_map nodup hMem h hSame]

/-- One raw score for each category is found again under its category, in order. -/
theorem map_rawOf? (h : raws.map (·.category) = Category.all) (default : Category → CategoryRaw) :
    Category.all.map (fun c => (rawOf? raws c).getD (default c)) = raws := by
  have nodup : (raws.map (·.category)).Nodup := by
    rw [h]
    decide
  rw [← h, List.map_map]
  calc
    raws.map ((fun c => (rawOf? raws c).getD (default c)) ∘ (·.category))
        = raws.map id := List.map_congr_left fun r hr => by
          rw [Function.comp_apply, rawOf?_of_mem nodup hr, Option.getD_some, id]
    _ = raws := List.map_id raws

/-- Raw scores given by category come in order. -/
theorem map_category_map {f : Category → CategoryRaw} (hf : ∀ c, (f c).category = c) :
    (Category.all.map f).map (·.category) = Category.all := by
  rw [List.map_map]
  exact (List.map_congr_left fun c _ => hf c).trans (List.map_id _)

theorem missingCategories_eq_nil (h : raws.map (·.category) = Category.all) :
    missingCategories raws = [] := by
  rw [missingCategories, List.filter_eq_nil_iff]
  intro c hc
  rw [← h, List.mem_map] at hc
  obtain ⟨r, hr, rfl⟩ := hc
  rw [rawOf?_of_mem (by rw [h]; decide) hr]
  exact Bool.false_ne_true

end

/-! ### Lending -/

section

variable {α : Type} [ScoreNumber α]

/-- **The rows of a breakdown**, one for each raw score. -/
theorem rowsOf_eq {raws : List CategoryRaw} (h : raws.map (·.category) = Category.all)
    (row : WeightRow) :
    rowsOf (α := α) raws row = raws.map (rowFor row (lend raws row)) := by
  calc
    rowsOf raws row
        = (Category.all.map fun c => (rawOf? raws c).getD
            { category := c, raw := 0, evidence := .noTests }).map
              (rowFor row (lend raws row)) := by
          rw [rowsOf, List.map_map]
          rfl
    _ = raws.map (rowFor row (lend raws row)) := by rw [map_rawOf? h]

/-- Where raw scores are given by category, rows are too. -/
theorem rowsOf_map {f : Category → CategoryRaw} (hf : ∀ c, (f c).category = c) (row : WeightRow) :
    rowsOf (α := α) (Category.all.map f) row =
      Category.all.map fun c => rowFor row (lend (Category.all.map f) row) (f c) := by
  rw [rowsOf_eq (map_category_map hf), List.map_map]
  rfl

/-- The row of a category, where raw scores are given by category. -/
theorem find?_rowsOf {f : Category → CategoryRaw} (hf : ∀ c, (f c).category = c) (row : WeightRow)
    (c : Category) :
    (rowsOf (α := α) (Category.all.map f) row).find? (·.category == c) =
      some (rowFor row (lend (Category.all.map f) row) (f c)) := by
  have by_category : (fun r : CategoryRow α => r.category == c) ∘
      (fun d => rowFor row (lend (Category.all.map f) row) (f d)) = (· == c) :=
    funext fun d => congrArg (· == c) (hf d)
  have found : Category.all.find? (· == c) = some c := by
    cases c <;> rfl
  rw [rowsOf_map hf, List.find?_map, by_category, found]
  rfl

/-- A category gains nothing, or what it is listed with. -/
theorem Lending.bonus_of_mem {l : Lending α} {P : α → Prop} (nothing : P (ScoreNumber.ofInt 0))
    (listed : ∀ e ∈ l.bonuses, P e.2) (c : Category) : P (l.bonus c) := by
  unfold Lending.bonus
  cases hFound : l.bonuses.lookup c with
  | none => exact nothing
  | some x =>
    obtain ⟨before, after, hSplit, -⟩ := List.lookup_eq_some_iff.mp hFound
    apply listed (c, x)
    rw [hSplit]
    exact List.mem_append_right _ List.mem_cons_self

theorem measuredWeights_congr {raws others : List CategoryRaw} (row : WeightRow)
    (h : raws.map (fun r => (r.category, r.evidence)) =
      others.map fun r => (r.category, r.evidence)) :
    measuredWeights raws row = measuredWeights others row := by
  have by_kind (rs : List CategoryRaw) :
      (rs.filter fun r => r.evidence == .measured && 0 < row.get r.category).map (·.category) =
        ((rs.map fun r => (r.category, r.evidence)).filter fun k =>
          k.2 == .measured && 0 < row.get k.1).map (·.1) := by
    rw [List.filter_map, List.map_map]
    rfl
  rw [measuredWeights, measuredWeights, by_kind, by_kind, h]

theorem lentWeight_congr {raws others : List CategoryRaw} (row : WeightRow)
    (h : raws.map (fun r => (r.category, r.evidence)) =
      others.map fun r => (r.category, r.evidence)) :
    lentWeight (α := α) raws row = lentWeight others row := by
  have by_kind (rs : List CategoryRaw) :
      (rs.filter (·.evidence == .unknown)).map (fun r =>
          (ScoreNumber.ofInt (row.get r.category) : α) *
            (ScoreNumber.ofInt 1 - ScoreNumber.unknownRatio)) =
        ((rs.map fun r => (r.category, r.evidence)).filter (·.2 == .unknown)).map fun k =>
          ScoreNumber.ofInt (row.get k.1) * (ScoreNumber.ofInt 1 - ScoreNumber.unknownRatio) := by
    rw [List.filter_map, List.map_map]
    rfl
  rw [lentWeight, lentWeight, by_kind, by_kind, h]

/-- **What is lent depends on what could be measured**, not on the raw scores. -/
theorem lend_congr {raws others : List CategoryRaw} (row : WeightRow)
    (h : raws.map (fun r => (r.category, r.evidence)) =
      others.map fun r => (r.category, r.evidence)) :
    lend (α := α) raws row = lend others row := by
  rw [lend, lend, measuredWeights_congr row h, lentWeight_congr row h]

end

section

variable {row : WeightRow} (balanced : row.Balanced) (raws : List CategoryRaw)

include balanced

theorem lentWeight_nonneg : 0 ≤ lentWeight (α := Rat) raws row := by
  rw [lentWeight, ScoreNumber.sum_rat]
  apply List.sum_nonneg
  intro x hx
  obtain ⟨r, -, rfl⟩ := List.mem_map.mp hx
  exact mul_nonneg (Int.cast_nonneg (balanced.get_nonneg r.category)) (by norm_num)

theorem measuredWeight_nonneg {c : Category} {weight : Int}
    (h : (c, weight) ∈ measuredWeights raws row) : 0 ≤ weight := by
  obtain ⟨d, -, hd⟩ := List.mem_map.mp h
  obtain ⟨-, rfl⟩ := Prod.mk.inj hd
  exact balanced.get_nonneg d

/-- What was lent is shared in proportion to the weights, so every share has their sign. -/
theorem bonuses_nonneg {c : Category} {x : Rat} (h : (c, x) ∈ (lend raws row).bonuses) :
    0 ≤ x := by
  have base_nonneg : 0 ≤ wholeSum ((measuredWeights raws row).map (·.2)) := by
    rw [wholeSum_eq_sum]
    apply List.sum_nonneg
    intro weight hWeight
    obtain ⟨entry, hEntry, rfl⟩ := List.mem_map.mp hWeight
    exact measuredWeight_nonneg balanced raws hEntry
  unfold lend at h
  dsimp only at h
  split at h
  · cases h
  · obtain ⟨⟨d, weight⟩, hEntry, hShare⟩ := List.mem_map.mp h
    obtain ⟨-, rfl⟩ := Prod.mk.inj hShare
    have weight_nonneg := measuredWeight_nonneg balanced raws hEntry
    exact div_nonneg (mul_nonneg (lentWeight_nonneg balanced raws) (Int.cast_nonneg weight_nonneg))
      (Int.cast_nonneg base_nonneg)

/-- **No category loses by lending.** -/
theorem bonus_nonneg (c : Category) : 0 ≤ (lend (α := Rat) raws row).bonus c :=
  Lending.bonus_of_mem (P := (0 ≤ ·)) le_rfl (fun _ h => bonuses_nonneg balanced raws h) c

end

/-! ### No faults among the rationals -/

theorem lookup_entries (row : WeightRow) (c : Category) :
    row.entries.lookup c = some (row.get c) := by
  cases c <;> rfl

@[simp] theorem missingFault?_entries (row : WeightRow) (c : Category) :
    missingFault? row.entries c = none := by
  rw [missingFault?, lookup_entries]
  rfl

@[simp] theorem weightFault?_rat (row : WeightRow) (c : Category) :
    weightFault? Rat row.entries c = none := by
  rw [weightFault?, lookup_entries]
  exact wholeFault?_rat _

theorem lendFault?_rat (raws : List CategoryRaw) (row : WeightRow) :
    lendFault? Rat raws row.entries = none := by
  unfold lendFault?
  dsimp only
  rw [List.findSome?_eq_none_iff.mpr fun c _ => weightFault?_rat row c,
    List.findSome?_eq_none_iff.mpr fun c _ => missingFault?_entries row c]
  split <;> rfl

theorem breakdownFault?_rat {raws : List CategoryRaw} (h : raws.map (·.category) = Category.all)
    (row : WeightRow) : breakdownFault? Rat raws row.entries = none := by
  unfold breakdownFault?
  rw [missingCategories_eq_nil h]
  dsimp only
  rw [lendFault?_rat, List.findSome?_eq_none_iff.mpr fun c _ => weightFault?_rat row c]
  rfl

theorem rankFault?_rat (tests : List TestCase) (issues : List Issue) (row : WeightRow)
    (policy : PenaltyPolicy) : rankFault? Rat tests issues row.entries policy = none := by
  have weighted (t : TestCase) (bucket : List Issue) (c : Category) :
      weightedFault? Rat t bucket row.entries c = none := by
    rw [weightedFault?, lookup_entries]
    rfl
  have value (t : TestCase) (bucket : List Issue) :
      valueFault? Rat t bucket row.entries = none := by
    rw [valueFault?, List.findSome?_eq_none_iff.mpr fun c _ => weighted t bucket c]
    rfl
  have values : valuesFault? Rat tests issues row.entries = none :=
    List.findSome?_eq_none_iff.mpr fun p _ => value p.1 p.2
  have complexities : complexityFault? Rat tests = none :=
    List.findSome?_eq_none_iff.mpr fun t _ => ratioFault?_rat t.span.lineCount 10
  rw [rankFault?, values, complexities, List.findSome?_eq_none_iff.mpr fun n _ => wholeFault?_rat n]
  rfl

/-- **Over the rationals one raw score for each category always has a breakdown.** -/
theorem aggregate_rat {raws : List CategoryRaw} (h : raws.map (·.category) = Category.all)
    (row : WeightRow) (issues : List Issue) (policy : PenaltyPolicy) (zeroAssertions : Bool) :
    aggregate (α := Rat) raws row.entries issues policy zeroAssertions =
      .ok (breakdownOf raws row issues policy zeroAssertions) := by
  rw [aggregate, breakdownFault?_rat h]
  rfl

/-! ### The audit of a suite -/

/-- The issues that count in the audit of a suite. -/
def issuesIn (config : Config) (pool : List Rule) (s : Suite) (facts : SourceFacts) : List Issue :=
  countedIssues config s
    (runRules (activeRules config.rules pool) (contextFor config s facts)).issues

section

variable (α : Type) [ScoreNumber α]

/-- The raw scores in the audit of a suite. -/
def scoredIn (config : Config) (pool : List Rule) (s : Suite) (facts : SourceFacts) : RawReport :=
  categoryRaws α (activeRules config.rules pool) (issuesIn config pool s facts)
    (contextFor config s facts)
    (runRules (activeRules config.rules pool) (contextFor config s facts)).failed

/-- **The audit of a suite**, unless a number is at fault. -/
def analysisIn (config : Config) (pool : List Rule) (s : Suite) (facts : SourceFacts) :
    Analysis α :=
  analysisOf α config (contextFor config s facts) (issuesIn config pool s facts)
    (scoredIn α config pool s facts)

end

theorem audit_eq {α : Type} [ScoreNumber α] (config : Config) (pool : List Rule) (s : Suite)
    (facts : SourceFacts) :
    audit α config pool s facts =
      ScoreFault.guard (analysisFault? α config (contextFor config s facts)
        (issuesIn config pool s facts) (scoredIn α config pool s facts))
        (analysisIn α config pool s facts) :=
  rfl

/-- What an audit gave is the analysis of its suite. -/
theorem eq_of_audit {α : Type} [ScoreNumber α] {config : Config} {pool : List Rule} {s : Suite}
    {facts : SourceFacts} {a : Analysis α} (h : audit α config pool s facts = .ok a) :
    a = analysisIn α config pool s facts := by
  rw [audit_eq] at h
  unfold ScoreFault.guard at h
  split at h
  · cases h
  · exact (Except.ok.inj h).symm

/-- What is read off an analysis is read off the audit of the suite. -/
theorem map_analyze {α β : Type} [ScoreNumber α] (f : Analysis α → β) (parse : Syntax.Parser)
    (config : Config) (job : Job) (pool : List Rule) :
    (analyze α parse config job pool).map f =
      match Suite.read parse job.path job.test config.framework with
      | .error e => .error (.ofRead e)
      | .ok s =>
        ((audit α config pool s (factsFor parse config job s)).map f).mapError fun e =>
          .ended (.score e) := by
  rw [analyze]
  cases Suite.read parse job.path job.test config.framework with
  | error e => rfl
  | ok s =>
    dsimp only
    cases audit α config pool s (factsFor parse config job s) <;> rfl

/-- Analyses by two pools compare as the audits of the suite do. -/
theorem analyze_eq_map {α : Type} [ScoreNumber α] {parse : Syntax.Parser} {config : Config}
    {job : Job} {pool other : List Rule} {f : Analysis α → Analysis α}
    (audits : ∀ s, Suite.read parse job.path job.test config.framework = .ok s →
      audit α config other s (factsFor parse config job s) =
        (audit α config pool s (factsFor parse config job s)).map f) :
    analyze α parse config job other = (analyze α parse config job pool).map f := by
  rw [map_analyze, analyze]
  cases hRead : Suite.read parse job.path job.test config.framework with
  | error e => rfl
  | ok s =>
    dsimp only
    rw [audits s hRead]

/-- **What `analyze` gives is the analysis of the suite that was read.** -/
theorem exists_read_of_analyze {α : Type} [ScoreNumber α] {parse : Syntax.Parser} {config : Config}
    {job : Job} {pool : List Rule} {a : Analysis α} (h : analyze α parse config job pool = .ok a) :
    ∃ s, Suite.read parse job.path job.test config.framework = .ok s ∧
      a = analysisIn α config pool s (factsFor parse config job s) := by
  unfold analyze at h
  split at h
  · cases h
  · next s hRead =>
    cases hAudit : audit α config pool s (factsFor parse config job s) with
    | error fault => simp [hAudit, Except.mapError] at h
    | ok found =>
      rw [hAudit] at h
      obtain rfl : found = a := Except.ok.inj h
      exact ⟨s, hRead, eq_of_audit hAudit⟩

/-- **Over the rationals the audit of a suite has no fault.** -/
theorem audit_rat (config : Config) (pool : List Rule) (s : Suite) (facts : SourceFacts) :
    audit Rat config pool s facts = .ok (analysisIn Rat config pool s facts) := by
  rw [audit_eq, analysisFault?, scoredIn, categoryRaws_fault,
    breakdownFault?_rat (categoryRaws_category _ _ _ _), rankFault?_rat]
  split <;> rfl

/-- Over the rationals a test file has an analysis where it can be read. -/
theorem analyze_rat {parse : Syntax.Parser} {config : Config} {job : Job} {s : Suite}
    (h : Suite.read parse job.path job.test config.framework = .ok s)
    (pool : List Rule := allRules) :
    analyze Rat parse config job pool =
      .ok (analysisIn Rat config pool s (factsFor parse config job s)) := by
  rw [analyze, h]
  dsimp only
  rw [audit_rat]
  rfl

end SuiteAudit
