import SuiteAudit.Proofs.Lending
import SuiteAudit.Proofs.Monotone

/-!
# Lending conserves weight

A row can turn a certain weight into points (`CategoryRow.reach`): a measured one its own and what it
gains, an unmeasured one three fifths of its own, as its raw score is at most fifteen. What
unmeasured rows cannot reach is what they lend, so the reach of a breakdown is a hundred wherever
there is a measured row to lend to, and never more (`sum_reach_eq`, `sum_reach_le`). The weighted
total stays within a hundred by that alone, without being bounded.
-/

namespace SuiteAudit

open ScoreNumber

/-! ### Raw scores of any rules -/

/-- **A raw score as the rules leave it**: how it was come by depends on what there is to look at,
and it is at most fifteen where the category could not be measured. -/
structure CategoryRaw.Rated (ctx : RuleContext) (r : CategoryRaw) : Prop where
  evidence_eq : r.evidence =
    if ctx.suite.tests.isEmpty then .noTests
    else if r.category.needsSource && !ctx.facts.available then .unknown
    else .measured
  raw_le_of_unknown : r.evidence = .unknown → r.raw ≤ 15
  raw_of_noTests : r.evidence = .noTests → r.raw = 0

/-- Where one category could not be measured there was something to look at in all of them. -/
theorem CategoryRaw.Rated.looked {ctx : RuleContext} {q r : CategoryRaw} (hq : q.Rated ctx)
    (hr : r.Rated ctx) (hUnknown : q.evidence = .unknown) : r.evidence ≠ .noTests := by
  have hQuery := hq.evidence_eq
  rw [hUnknown] at hQuery
  intro hNone
  have hEvidence := hr.evidence_eq
  rw [hNone] at hEvidence
  -- Nothing to look at in one category means that there are no tests, and so in none.
  cases hTests : ctx.suite.tests.isEmpty with
  | true => simp [hTests] at hQuery
  | false =>
    rw [hTests, if_neg Bool.false_ne_true] at hEvidence
    split at hEvidence <;> cases hEvidence

theorem rated_rawFrom {ctx : RuleContext} (hTests : ctx.suite.tests.isEmpty = false) (c : Category)
    (effect : Effect) : (rawFrom (α := Rat) c ctx effect).Rated ctx := by
  unfold rawFrom
  dsimp only
  split
  · next h =>
    have : c.needsSource = false := by simpa using h
    exact ⟨by simp [hTests, this], nofun, nofun⟩
  · next h =>
    have hSource : c.needsSource = true := by simpa using h
    split
    · next h =>
      have : ctx.facts.available = false := by simpa using h
      exact ⟨by simp [hTests, hSource, this], fun _ => unknownValue_clampRaw_le _, nofun⟩
    · next h =>
      have : ctx.facts.available = true := by simpa using h
      exact ⟨by simp [hTests, this], nofun, nofun⟩

section

variable (rules : List Rule) (issues : List Issue) (ctx : RuleContext) (failed : List Text)

theorem rated_of_mem_categoryRaws :
    ∀ r ∈ (categoryRaws Rat rules issues ctx failed).raws, r.Rated ctx := by
  -- By induction on the categories: each adds one raw score to those that are there.
  suffices foldl_rated : ∀ (cs : List Category) (report : RawReport),
      (∀ r ∈ report.raws, r.Rated ctx) →
      ∀ r ∈ (cs.foldl (RawReport.add Rat rules issues ctx) report).raws, r.Rated ctx from
    foldl_rated Category.all { failed } (by simp)
  intro cs
  induction cs with
  | nil => exact fun _ h => h
  | cons c cs ih =>
    intro report h
    apply ih
    unfold RawReport.add
    split
    · next hTests =>
      intro r hr
      rcases List.mem_append.mp hr with hr | hr
      · exact h r hr
      · obtain rfl := List.mem_singleton.mp hr
        exact ⟨by simp [hTests], nofun, fun _ => rfl⟩
    · next hTests =>
      intro r hr
      rcases List.mem_append.mp hr with hr | hr
      · exact h r hr
      · obtain rfl := List.mem_singleton.mp hr
        exact rated_rawFrom (by simpa using hTests) c _

/-- **Raw scores are given by category**, whatever the rules answer. -/
theorem exists_categoryRaws_eq :
    ∃ f : Category → CategoryRaw, (∀ c, (f c).category = c) ∧ (∀ c, (f c).Rated ctx) ∧
      (categoryRaws Rat rules issues ctx failed).raws = Category.all.map f := by
  set raws := (categoryRaws Rat rules issues ctx failed).raws
  have in_order : raws.map (·.category) = Category.all := categoryRaws_category _ _ _ _
  have found (c : Category) :
      (rawOf? raws c).getD default ∈ raws ∧ ((rawOf? raws c).getD default).category = c := by
    have hc : c ∈ raws.map (·.category) := in_order ▸ Category.mem_all c
    obtain ⟨r, hr, rfl⟩ := List.mem_map.mp hc
    rw [rawOf?_of_mem (by rw [in_order]; decide) hr]
    exact ⟨hr, rfl⟩
  exact ⟨fun c => (rawOf? raws c).getD default, fun c => (found c).2,
    fun c => rated_of_mem_categoryRaws rules issues ctx failed _ (found c).1,
    (map_rawOf? in_order _).symm⟩

end

/-! ### The reach of rows -/

/-- **The weight that a row can turn into points.** -/
def CategoryRow.reach (r : CategoryRow Rat) : Rat :=
  match r.evidence with
  | .measured => r.weight + r.weightBonus
  | .unknown => 3 / 5 * r.weight
  | .noTests => 0

theorem sum_map_reach (rows : List (CategoryRow Rat)) :
    (rows.map CategoryRow.reach).sum =
      ((rows.filter (·.evidence == .measured)).map fun r => (r.weight : Rat) + r.weightBonus).sum +
        3 / 5 * ((rows.filter (·.evidence == .unknown)).map fun r => (r.weight : Rat)).sum := by
  induction rows with
  | nil => simp
  | cons r rows ih =>
    rw [List.map_cons, List.sum_cons, ih, List.filter_cons, List.filter_cons, CategoryRow.reach]
    cases r.evidence with
    | measured => simp [add_assoc]
    | unknown =>
      simp only [beq_self_eq_true, if_true, List.map_cons, List.sum_cons]
      simp
      ring
    | noTests => simp

/-- **A row is worth at most its reach**, as its raw score is one that rules leave. -/
theorem weighted_le_reach {row : WeightRow} (balanced : row.Balanced) {lending : Lending Rat}
    (gains : ∀ c, 0 ≤ lending.bonus c) {ctx : RuleContext} {r : CategoryRaw} (rated : r.Rated ctx)
    (unmeasured : r.evidence ≠ .measured → lending.bonus r.category = 0) :
    (rowFor row lending r).weighted ≤ (rowFor row lending r).reach := by
  have weight_nonneg : (0 : Rat) ≤ row.get r.category :=
    Int.cast_nonneg (balanced.get_nonneg r.category)
  have bonus_nonneg := gains r.category
  show ((max 0 (min 25 r.raw) : Int) : Rat) * (row.get r.category + lending.bonus r.category) / 25 ≤
    (rowFor row lending r).reach
  -- The worth is bounded by a bound on the raw score, which is another for each evidence.
  have weighted_le {n : Int} (h : max 0 (min 25 r.raw) ≤ n) :
      ((max 0 (min 25 r.raw) : Int) : Rat) * (row.get r.category + lending.bonus r.category) / 25 ≤
        n * (row.get r.category + lending.bonus r.category) / 25 :=
    div_le_div_of_nonneg_right
      (mul_le_mul_of_nonneg_right (Int.cast_le.mpr h) (add_nonneg weight_nonneg bonus_nonneg))
      (by norm_num)
  cases hEvidence : r.evidence with
  | measured =>
    have reach_eq : (rowFor row lending r).reach =
        row.get r.category + lending.bonus r.category := by
      simp [CategoryRow.reach, rowFor, hEvidence]
    have := weighted_le (n := 25) (by omega)
    rw [reach_eq]
    push_cast at this ⊢
    linarith
  | unknown =>
    have reach_eq : (rowFor row lending r).reach = 3 / 5 * row.get r.category := by
      simp [CategoryRow.reach, rowFor, hEvidence]
    have := weighted_le (n := 15) (by have := rated.raw_le_of_unknown hEvidence; omega)
    rw [reach_eq]
    rw [unmeasured (by simp [hEvidence])] at this ⊢
    push_cast at this ⊢
    linarith
  | noTests =>
    have reach_eq : (rowFor row lending r).reach = 0 := by
      simp [CategoryRow.reach, rowFor, hEvidence]
    rw [reach_eq, rated.raw_of_noTests hEvidence]
    simp

section

variable {f : Category → CategoryRaw} (hf : ∀ c, (f c).category = c) {row : WeightRow}

include hf

theorem bonus_of_unmeasured {c : Category} (h : (f c).evidence ≠ .measured) :
    (lend (α := Rat) (Category.all.map f) row).bonus c = 0 := by
  rw [bonus_map hf, sharesIn, beq_eq_false_iff_ne.mpr h, Bool.false_and]
  exact if_neg Bool.false_ne_true

/-- The reach of the rows: the weights of the measured ones, what is moved to them, and three fifths
of the unmeasured weights. -/
theorem sum_reach_rows :
    ((rowsOf (α := Rat) (Category.all.map f) row).map CategoryRow.reach).sum =
      (Category.all.map fun c =>
          if (f c).evidence == .measured then (row.get c : Rat) else 0).sum +
        (lend (α := Rat) (Category.all.map f) row).moved +
        3 / 5 * (Category.all.map fun c =>
          if (f c).evidence == .unknown then (row.get c : Rat) else 0).sum := by
  -- An unmeasured row gains nothing, so what is gained may be counted for every row.
  have reach_eq (c : Category) :
      (rowFor row (lend (Category.all.map f) row) (f c)).reach =
        (if (f c).evidence == .measured then (row.get c : Rat) else 0) +
          (lend (α := Rat) (Category.all.map f) row).bonus c +
          3 / 5 * (if (f c).evidence == .unknown then (row.get c : Rat) else 0) := by
    have unmeasured := @bonus_of_unmeasured f hf row c
    unfold CategoryRow.reach rowFor
    dsimp only
    rw [hf]
    cases hEvidence : (f c).evidence with
    | measured => simp
    | unknown => simp [unmeasured (by simp [hEvidence])]
    | noTests => simp [unmeasured (by simp [hEvidence])]
  have maps_eq : Category.all.map
      (CategoryRow.reach ∘ fun c => rowFor row (lend (Category.all.map f) row) (f c)) =
        Category.all.map _ := List.map_congr_left fun c _ => reach_eq c
  rw [rowsOf_map hf, List.map_map, maps_eq, List.sum_map_add, List.sum_map_add,
    List.sum_map_mul_left, sum_bonus hf]

omit hf in
/-- Balanced weights are a hundred together. -/
theorem sum_get (balanced : row.Balanced) :
    (Category.all.map fun c => (row.get c : Rat)).sum = 100 := by
  have total_eq : (row.total : Rat) = 100 := by exact_mod_cast balanced.total_eq
  rw [← total_eq, WeightRow.total]
  simp only [Category.all, WeightRow.get, List.map_cons, List.map_nil, List.sum_cons, List.sum_nil]
  push_cast
  ring

omit hf in
/-- The measured and the unmeasured categories weigh no more than all. -/
theorem sum_weights_le (balanced : row.Balanced) :
    (Category.all.map fun c => if (f c).evidence == .measured then (row.get c : Rat) else 0).sum +
        (Category.all.map fun c => if (f c).evidence == .unknown then (row.get c : Rat) else 0).sum ≤
      100 := by
  rw [← sum_get balanced, ← List.sum_map_add]
  apply List.sum_le_sum
  intro c _
  have weight_nonneg : (0 : Rat) ≤ row.get c := Int.cast_nonneg (balanced.get_nonneg c)
  cases (f c).evidence with
  | measured => simp
  | unknown => simp
  | noTests => simpa using weight_nonneg

omit hf in
/-- Where there is something to look at, they are all there are. -/
theorem sum_weights_eq (balanced : row.Balanced) (looked : ∀ c, (f c).evidence ≠ .noTests) :
    (Category.all.map fun c => if (f c).evidence == .measured then (row.get c : Rat) else 0).sum +
        (Category.all.map fun c => if (f c).evidence == .unknown then (row.get c : Rat) else 0).sum =
      100 := by
  rw [← sum_get balanced, ← List.sum_map_add]
  congr 1
  apply List.map_congr_left
  intro c _
  cases hEvidence : (f c).evidence with
  | measured => simp
  | unknown => simp
  | noTests => exact absurd hEvidence (looked c)

theorem lentWeight_eq_mul :
    lentWeight (α := Rat) (Category.all.map f) row =
      2 / 5 * (Category.all.map fun c =>
        if (f c).evidence == .unknown then (row.get c : Rat) else 0).sum := by
  rw [lentWeight_map hf, ← List.sum_map_mul_left]
  congr 1
  apply List.map_congr_left
  intro c _
  split
  · exact mul_comm _ _
  · exact (mul_zero _).symm

/-- A measured category with a weight shares in what is lent, so all of it is moved. -/
theorem moved_eq_lentWeight {c : Category} (hMeasured : (f c).evidence = .measured)
    (hWeight : 0 < row.get c) :
    (lend (α := Rat) (Category.all.map f) row).moved = lentWeight (Category.all.map f) row := by
  have base_pos : 0 < wholeSum ((measuredWeights (Category.all.map f) row).map (·.2)) := by
    rw [measuredWeights_map hf, wholeSum_eq_sum, List.map_map]
    apply List.sum_pos
    · intro w hw
      obtain ⟨d, hd, rfl⟩ := List.mem_map.mp hw
      have shares := (List.mem_filter.mp hd).2
      simpa using (Bool.and_eq_true_iff.mp shares).2
    · have : c ∈ Category.all.filter (sharesIn f row) :=
        List.mem_filter.mpr ⟨Category.mem_all c, by simp [sharesIn, hMeasured, hWeight]⟩
      simpa using List.ne_nil_of_mem this
  rw [moved_eq, if_neg base_pos.ne']

/-- **The rows together reach no more than a hundred.** -/
theorem sum_reach_le (balanced : row.Balanced) :
    ((rowsOf (α := Rat) (Category.all.map f) row).map CategoryRow.reach).sum ≤ 100 := by
  have moved_le := moved_le_lentWeight balanced (Category.all.map f)
  rw [lentWeight_eq_mul hf] at moved_le
  rw [sum_reach_rows hf]
  linarith [sum_weights_le (f := f) balanced]

/-- **The rows together reach a hundred**, where there is a measured one to lend to. -/
theorem sum_reach_eq (balanced : row.Balanced) (looked : ∀ c, (f c).evidence ≠ .noTests)
    {c : Category} (hMeasured : (f c).evidence = .measured) (hWeight : 0 < row.get c) :
    ((rowsOf (α := Rat) (Category.all.map f) row).map CategoryRow.reach).sum = 100 := by
  rw [sum_reach_rows hf, moved_eq_lentWeight hf hMeasured hWeight, lentWeight_eq_mul hf]
  linarith [sum_weights_eq (f := f) balanced looked]

end

/-! ### The breakdown -/

/-- The rows of a breakdown are worth no more than they reach. -/
theorem sum_weighted_le_reach {f : Category → CategoryRaw} (hf : ∀ c, (f c).category = c)
    {row : WeightRow} (balanced : row.Balanced) {ctx : RuleContext}
    (rated : ∀ c, (f c).Rated ctx) :
    ((rowsOf (α := Rat) (Category.all.map f) row).map (·.weighted)).sum ≤
      ((rowsOf (α := Rat) (Category.all.map f) row).map CategoryRow.reach).sum := by
  rw [rowsOf_map hf, List.map_map, List.map_map]
  apply List.sum_le_sum
  intro c _
  apply weighted_le_reach balanced (bonus_nonneg balanced _) (rated c)
  intro unmeasured
  rw [hf]
  exact bonus_of_unmeasured hf unmeasured

theorem sum_weighted_nonneg {f : Category → CategoryRaw} (hf : ∀ c, (f c).category = c)
    {row : WeightRow} (balanced : row.Balanced) :
    0 ≤ ((rowsOf (α := Rat) (Category.all.map f) row).map (·.weighted)).sum := by
  rw [rowsOf_map hf, List.map_map]
  apply List.sum_nonneg
  intro x hx
  obtain ⟨c, -, rfl⟩ := List.mem_map.mp hx
  have raw_nonneg : (0 : Rat) ≤ (max 0 (min 25 (f c).raw) : Int) :=
    Int.cast_nonneg (le_max_left 0 _)
  exact div_nonneg (mul_nonneg raw_nonneg
    (add_nonneg (Int.cast_nonneg (balanced.get_nonneg _)) (bonus_nonneg balanced _ _)))
    (by norm_num)

/-- A weighted total whose rows are worth no more than a hundred is not cut. -/
theorem weightedTotalOf_eq {rows : List (CategoryRow Rat)}
    (hLow : 0 ≤ (rows.map (·.weighted)).sum) (hHigh : (rows.map (·.weighted)).sum ≤ 100) :
    weightedTotalOf rows = roundHalfUp (rows.map (·.weighted)).sum := by
  have low : 0 ≤ roundHalfUp (rows.map (·.weighted)).sum := le_roundHalfUp (by exact_mod_cast hLow)
  have high : roundHalfUp (rows.map (·.weighted)).sum ≤ 100 :=
    roundHalfUp_le (by exact_mod_cast hHigh)
  rw [weightedTotalOf, sum_rat, min_eq_right high, max_eq_right low]

/-- **Lending conserves weight.** With weights that a configuration admits and raw scores as any
rules leave them, only measured rows gain, none loses, and what they gain is what is reported as
redistributed. Where a category could not be measured and there is a measured one with a weight to
lend to, the measured rows, with what they gain, and three fifths of the unmeasured ones weigh a
hundred. So the rows are worth at most a hundred, which no bound has to enforce; and for the same
evidence the total never falls where a raw score rises. -/
theorem lending_conserves {raw : List (Text × Json)} {config : Config}
    (accepted : Config.ofFields registry raw = .ok config) (t : TestType) (rules : List Rule)
    (issues : List Issue) (ctx : RuleContext) (failed : List Text) (counted : List Issue)
    (policy : PenaltyPolicy) (zeroAssertions : Bool) :
    let row := weightsFor t config.weights
    let scored (raws : List CategoryRaw) :=
      aggregate (α := Rat) raws row.entries counted policy zeroAssertions
    (∃ b, scored (categoryRaws Rat rules issues ctx failed).raws = .ok b ∧
      b.rows.map (·.category) = Category.all ∧
      (∀ r ∈ b.rows, 0 ≤ r.weightBonus ∧ (r.evidence ≠ .measured → r.weightBonus = 0)) ∧
      (b.rows.map (·.weightBonus)).sum = b.redistributedWeight ∧
      ((∃ r ∈ b.rows, r.evidence = .unknown) →
        (∃ r ∈ b.rows, r.evidence = .measured ∧ 0 < r.weight) →
        ((b.rows.filter (·.evidence == .measured)).map fun r =>
              (r.weight : Rat) + r.weightBonus).sum +
            3 / 5 * ((b.rows.filter (·.evidence == .unknown)).map fun r => (r.weight : Rat)).sum =
          100) ∧
      (b.rows.map (·.weighted)).sum ≤ 100 ∧
      b.weightedTotal = roundHalfUp (b.rows.map (·.weighted)).sum) ∧
    ∀ worse better : List CategoryRaw, worse.map (·.category) = Category.all →
      List.Forall₂ CategoryRaw.AtMost worse better →
      ∃ low high, scored worse = .ok low ∧ scored better = .ok high ∧
        (low.rows.map (·.weighted)).sum ≤ (high.rows.map (·.weighted)).sum ∧
        low.weightedTotal ≤ high.weightedTotal := by
  intro row scored
  have balanced : row.Balanced := balanced_weightsFor accepted t
  constructor
  · obtain ⟨f, hf, rated, raws_eq⟩ := exists_categoryRaws_eq rules issues ctx failed
    have row_of_mem {r : CategoryRow Rat} (hr : r ∈ rowsOf (Category.all.map f) row) :
        ∃ c, rowFor row (lend (Category.all.map f) row) (f c) = r := by
      rw [rowsOf_map hf] at hr
      obtain ⟨c, -, h⟩ := List.mem_map.mp hr
      exact ⟨c, h⟩
    have reach_le := sum_reach_le hf balanced
    have worth_le := (sum_weighted_le_reach hf balanced rated).trans reach_le
    rw [raws_eq]
    refine ⟨_, aggregate_rat (map_category_map hf) row counted policy zeroAssertions, ?_, ?_, ?_,
      ?_, worth_le,
      weightedTotalOf_eq (sum_weighted_nonneg hf balanced) worth_le⟩
    · show (rowsOf (α := Rat) (Category.all.map f) row).map (·.category) = Category.all
      rw [rowsOf_eq (map_category_map hf), List.map_map]
      exact map_category_map hf
    · intro r hr
      obtain ⟨c, rfl⟩ := row_of_mem hr
      refine ⟨bonus_nonneg balanced _ _, fun unmeasured => ?_⟩
      show (lend (Category.all.map f) row).bonus (f c).category = 0
      rw [hf]
      exact bonus_of_unmeasured hf unmeasured
    · show ((rowsOf (Category.all.map f) row).map (·.weightBonus)).sum =
        (lend (α := Rat) (Category.all.map f) row).moved
      rw [rowsOf_map hf, List.map_map, ← sum_bonus hf]
      congr 1
      exact List.map_congr_left fun c _ => congrArg (lend (Category.all.map f) row).bonus (hf c)
    · rintro ⟨u, hu, hUnknown⟩ ⟨m, hm, hMeasured, hWeight⟩
      obtain ⟨d, rfl⟩ := row_of_mem hu
      obtain ⟨c, rfl⟩ := row_of_mem hm
      have weight_pos : 0 < row.get (f c).category := hWeight
      rw [hf] at weight_pos
      rw [← sum_map_reach]
      exact sum_reach_eq hf balanced (fun e => (rated d).looked (rated e) hUnknown) hMeasured
        weight_pos
  -- For the same evidence as much is lent, so only the raw scores differ.
  · intro worse better in_order h
    have rows_le := rowsOf_mono balanced in_order h
    exact ⟨_, _, aggregate_rat in_order row counted policy zeroAssertions,
      aggregate_rat ((map_category_of_atMost h).symm.trans in_order) row counted policy
        zeroAssertions, rows_le.sum_le_sum, weightedTotalOf_mono rows_le⟩

/-- A configuration in which half of the weight needs a source, and half is on assertions. -/
def halfSourced : List (Text × Json) :=
  [("weights", .object [("unit", .object [("assertion_quality", .int 50),
    ("error_coverage", .int 30), ("boundary_conditions", .int 20), ("test_isolation", .int 0),
    ("input_variety", .int 0), ("ai_smells", .int 0)])])]

/-- Without a source the assertions gain twenty; the measured categories without a weight gain
nothing. -/
theorem lending_conserves_half_sourced :
    let config : Config := { weights := [(.unit, ⟨50, 30, 20, 0, 0, 0⟩)] }
    let ctx : RuleContext := { suite := { tests := [{ name := "works" }] } }
    let raws := (categoryRaws Rat allRules [] ctx []).raws
    let b : Breakdown Rat := breakdownOf raws (weightsFor .unit config.weights) [] {} false
    Config.ofFields registry halfSourced = .ok config ∧
      (∃ r ∈ b.rows, r.evidence = .unknown) ∧
      (∃ r ∈ b.rows, r.evidence = .measured ∧ 0 < r.weight) ∧
      b.rows.map (·.weightBonus) = [20, 0, 0, 0, 0, 0] ∧
      ((b.rows.filter (·.evidence == .measured)).map fun r =>
            (r.weight : Rat) + r.weightBonus).sum +
          3 / 5 * ((b.rows.filter (·.evidence == .unknown)).map fun r => (r.weight : Rat)).sum =
        100 ∧
      (b.rows.map (·.weighted)).sum ≤ 100 := by
  intro config ctx raws b
  have accepted : Config.ofFields registry halfSourced = .ok config := rfl
  have unmeasured : ∃ r ∈ b.rows, r.evidence = .unknown := by decide +kernel
  have measured : ∃ r ∈ b.rows, r.evidence = .measured ∧ 0 < r.weight := by decide +kernel
  obtain ⟨⟨found, hFound, -, -, -, conserved, worth_le, -⟩, -⟩ :=
    lending_conserves accepted .unit allRules [] ctx [] [] {} false
  obtain rfl : b = found :=
    Except.ok.inj ((aggregate_rat (categoryRaws_category _ _ _ _) _ _ _ _).symm.trans hFound)
  exact ⟨accepted, unmeasured, measured, by decide +kernel, conserved unmeasured measured, worth_le⟩

end SuiteAudit
