import SuiteAudit.Proofs.Breakdowns

/-!
# More issues never raise a score

`Effect.LE` orders what rules do to a category, and every step from there to the final score keeps
the order: the raw score of a category (`rawFrom_mono`), its row in the breakdown, the weighted
total (`weightedTotalOf_mono`), and what penalties leave of it (`finalOf_mono`). The answers of registered
rules are antitone in the issues, so `score_antitone` follows for every list of them.
-/

namespace SuiteAudit

open ScoreNumber

/-! ### Raw scores -/

/-- **One effect is at most as good as another**: it takes no fewer points, and of the same facts
covers no more. -/
structure Effect.LE (d e : Effect) : Prop where
  testPoints_le : (pointSum d.testPoints : Rat) ≤ pointSum e.testPoints
  sourcePoints_le : (pointSum d.sourcePoints : Rat) ≤ pointSum e.sourcePoints
  covered_le : d.covered ≤ e.covered
  total_eq : d.total = e.total
  total_nonneg : 0 ≤ e.total

theorem pointSum_mono {β : Type} {xs : List β} {f g : β → Points}
    (h : ∀ x ∈ xs, ((f x).value : Rat) ≤ (g x).value) :
    (pointSum (xs.map f) : Rat) ≤ pointSum (xs.map g) := by
  rw [pointSum_rat, pointSum_rat, List.map_map, List.map_map]
  exact List.sum_le_sum h

/-- More issues never make the effect of registered rules better. -/
theorem Effect.ofRules_antitone {rules : List Rule} (known : ∀ r ∈ rules, r ∈ allRules)
    {ctx : RuleContext} (hSmell : 0 ≤ ctx.smells.pointsPerSmell) {few many : List Issue}
    (fewer : few.Sublist many) :
    (Effect.ofRules rules many ctx).LE (Effect.ofRules rules few ctx) := by
  have answers (p : Rule → Bool) : ∀ r ∈ rules.filter p, (r.delta many ctx).LE (r.delta few ctx) :=
    fun r hr => delta_antitone (known r (List.mem_of_mem_filter hr)) hSmell fewer
  refine ⟨?_, ?_, ?_, ?_, ?_⟩
  · exact pointSum_mono fun r hr => (answers _ r hr).points_le
  · exact pointSum_mono fun r hr => (answers _ r hr).points_le
  · simp only [Effect.ofRules, wholeSum_eq_sum]
    exact List.sum_le_sum fun r hr => (answers _ r hr).covered_le
  · exact congrArg wholeSum (List.map_congr_left fun r hr => (answers _ r hr).total_eq)
  · simp only [Effect.ofRules, wholeSum_eq_sum]
    apply List.sum_nonneg
    intro n hn
    obtain ⟨r, hr, rfl⟩ := List.mem_map.mp hn
    rw [← (answers _ r hr).total_eq]
    exact (answers _ r hr).total_nonneg

/-- **A better effect gives no lower a raw score.** -/
theorem rawFrom_mono (c : Category) (ctx : RuleContext) {d e : Effect} (h : d.LE e) :
    (rawFrom (α := Rat) c ctx d).raw ≤ (rawFrom (α := Rat) c ctx e).raw := by
  have testOnly_le :
      clampRaw (ofInt (startScore ctx.suite c) + pointSum d.testPoints : Rat) ≤
        clampRaw (ofInt (startScore ctx.suite c) + pointSum e.testPoints) :=
    clampRaw_mono (by linarith [h.testPoints_le])
  have unmeasured_le := unknownValue_mono testOnly_le
  have withSource_le := clampRaw_mono (add_le_add testOnly_le h.sourcePoints_le)
  unfold rawFrom
  dsimp only
  split
  · exact roundHalfUp_mono withSource_le
  · split
    · exact unmeasured_le
    · refine max_le_max (roundHalfUp_mono ?_) unmeasured_le
      rw [h.total_eq]
      split
      · exact withSource_le
      -- Both cover a share of the same facts, so the shares compare as what is covered does.
      · apply clampRaw_mono
        refine add_le_add (add_le_add ?_ h.testPoints_le) h.sourcePoints_le
        have covered_le : ((maxRaw * d.covered : Int) : Rat) ≤ (maxRaw * e.covered : Int) :=
          Int.cast_le.mpr (Int.mul_le_mul_of_nonneg_left h.covered_le (by decide))
        exact div_le_div_of_nonneg_right covered_le (Int.cast_nonneg h.total_nonneg)

/-- More issues never raise the raw score of a category. -/
theorem rawIn_antitone {rules : List Rule} (known : ∀ r ∈ rules, r ∈ allRules) {ctx : RuleContext}
    (hSmell : 0 ≤ ctx.smells.pointsPerSmell) (failed : List Text) {few many : List Issue}
    (fewer : few.Sublist many) (c : Category) :
    (rawIn Rat rules many ctx failed c).raw ≤ (rawIn Rat rules few ctx failed c).raw := by
  unfold rawIn
  split
  · exact le_rfl
  · apply rawFrom_mono
    exact Effect.ofRules_antitone (fun r hr => known r (List.mem_of_mem_filter hr)) hSmell fewer

/-! ### The score -/

/-- A row grows with its raw score. -/
theorem weighted_mono {row : WeightRow} (balanced : row.Balanced) {lending : Lending Rat}
    (gains : ∀ c, 0 ≤ lending.bonus c) {q r : CategoryRaw} (hCategory : q.category = r.category)
    (h : q.raw ≤ r.raw) :
    (rowFor row lending q).weighted ≤ (rowFor row lending r).weighted := by
  have raw_le : ((max 0 (min 25 q.raw) : Int) : Rat) ≤ (max 0 (min 25 r.raw) : Int) :=
    Int.cast_le.mpr (max_le_max le_rfl (min_le_min le_rfl h))
  have weight_nonneg : (0 : Rat) ≤ row.get r.category + lending.bonus r.category :=
    add_nonneg (Int.cast_nonneg (balanced.get_nonneg r.category)) (gains r.category)
  unfold rowFor
  rw [hCategory]
  exact div_le_div_of_nonneg_right (mul_le_mul_of_nonneg_right raw_le weight_nonneg) (by norm_num)

/-- Lists by category compare category by category. -/
theorem forall₂_map_all {β : Type} [LE β] {f g : Category → β} (h : ∀ c, f c ≤ g c) :
    List.Forall₂ (· ≤ ·) (Category.all.map f) (Category.all.map g) := by
  rw [List.forall₂_map_left_iff, List.forall₂_map_right_iff, List.forall₂_same]
  exact fun c _ => h c

theorem weightedTotalOf_mono {rows others : List (CategoryRow Rat)}
    (h : List.Forall₂ (· ≤ ·) (rows.map (·.weighted)) (others.map (·.weighted))) :
    weightedTotalOf rows ≤ weightedTotalOf others := by
  rw [weightedTotalOf, weightedTotalOf, sum_rat, sum_rat]
  exact max_le_max le_rfl (min_le_min le_rfl (roundHalfUp_mono h.sum_le_sum))

theorem finalOf_mono {total better penalty worse : Int} (hTotal : total ≤ better)
    (hPenalty : penalty ≤ worse) (zeroAssertions : Bool) :
    finalOf total worse zeroAssertions ≤ finalOf better penalty zeroAssertions := by
  have left_le : max 0 (total - worse) ≤ max 0 (better - penalty) := max_le_max le_rfl (by omega)
  unfold finalOf
  dsimp only
  split
  · exact min_le_min left_le le_rfl
  · exact left_le

/-- Prices that are not negative cost no less for more issues. -/
theorem total_pointsOf_mono {policy : PenaltyPolicy} (hError : 0 ≤ policy.perError)
    (hWarning : 0 ≤ policy.perWarning) (hInfo : 0 ≤ policy.perInfo) {few many : List Issue}
    (fewer : few.Sublist many) :
    (policy.pointsOf few).total ≤ (policy.pointsOf many).total := by
  have cost (severity : Severity) {each : Int} (hEach : 0 ≤ each) (cap : Int) :
      min (penaltyCount severity few * each) cap ≤ min (penaltyCount severity many * each) cap :=
    min_le_min (Int.mul_le_mul_of_nonneg_right (Int.ofNat_le.mpr fewer.countP_le) hEach) le_rfl
  exact Int.add_le_add (Int.add_le_add (cost .error hError _) (cost .warning hWarning _))
    (cost .info hInfo _)

theorem Score.ofInt_mono {m n : Int} (h : m ≤ n) : (Score.ofInt m).value ≤ (Score.ofInt n).value :=
  min_le_min le_rfl (Int.toNat_le_toNat h)

/-- **One raw score is at most another** of the same category that was come by in the same way. -/
structure CategoryRaw.AtMost (q r : CategoryRaw) : Prop where
  category_eq : q.category = r.category
  evidence_eq : q.evidence = r.evidence
  raw_le : q.raw ≤ r.raw

theorem map_category_of_atMost {worse better : List CategoryRaw}
    (h : List.Forall₂ CategoryRaw.AtMost worse better) :
    worse.map (·.category) = better.map (·.category) := by
  rw [← List.forall₂_eq_eq_eq, List.forall₂_map_left_iff, List.forall₂_map_right_iff]
  exact h.imp fun _ _ hqr => hqr.category_eq

/-- Rows grow with their raw scores: as much is lent to either side. -/
theorem rowsOf_mono {row : WeightRow} (balanced : row.Balanced) {worse better : List CategoryRaw}
    (in_order : worse.map (·.category) = Category.all)
    (h : List.Forall₂ CategoryRaw.AtMost worse better) :
    List.Forall₂ (· ≤ ·) ((rowsOf (α := Rat) worse row).map (·.weighted))
      ((rowsOf (α := Rat) better row).map (·.weighted)) := by
  have kinds : worse.map (fun r => (r.category, r.evidence)) =
      better.map fun r => (r.category, r.evidence) := by
    rw [← List.forall₂_eq_eq_eq, List.forall₂_map_left_iff, List.forall₂_map_right_iff]
    exact h.imp fun _ _ hqr => Prod.ext hqr.category_eq hqr.evidence_eq
  rw [rowsOf_eq in_order, rowsOf_eq ((map_category_of_atMost h).symm.trans in_order),
    lend_congr row kinds, List.map_map, List.map_map, List.forall₂_map_left_iff,
    List.forall₂_map_right_iff]
  exact h.imp fun _ _ hqr =>
    weighted_mono balanced (bonus_nonneg balanced _) hqr.category_eq hqr.raw_le

/-- **Better raw scores and lower penalties never lower the final score**, where the same categories
could be measured. -/
theorem final_mono {row : WeightRow} (balanced : row.Balanced) {f g : Category → CategoryRaw}
    (hf : ∀ c, (f c).category = c) (hg : ∀ c, (g c).category = c)
    (hEvidence : ∀ c, (f c).evidence = (g c).evidence) (h : ∀ c, (f c).raw ≤ (g c).raw)
    {policy : PenaltyPolicy} {few many : List Issue}
    (hPenalty : (policy.pointsOf few).total ≤ (policy.pointsOf many).total)
    (zeroAssertions : Bool) :
    (breakdownOf (α := Rat) (Category.all.map f) row many policy zeroAssertions).final ≤
      (breakdownOf (α := Rat) (Category.all.map g) row few policy zeroAssertions).final := by
  apply finalOf_mono _ hPenalty
  apply weightedTotalOf_mono
  apply rowsOf_mono balanced (map_category_map hf)
  rw [List.forall₂_map_left_iff, List.forall₂_map_right_iff, List.forall₂_same]
  exact fun c _ => ⟨(hf c).trans (hg c).symm, hEvidence c, h c⟩

/-- **More issues never raise a score**: neither a raw score nor the final one. -/
theorem score_antitone {raw : List (Text × Json)} {config : Config}
    (accepted : Config.ofFields registry raw = .ok config) (t : TestType)
    {rules : List Rule} (known : ∀ r ∈ rules, r ∈ allRules) {ctx : RuleContext}
    (hSmell : 0 ≤ ctx.smells.pointsPerSmell) (failed : List Text) {policy : PenaltyPolicy}
    (hError : 0 ≤ policy.perError) (hWarning : 0 ≤ policy.perWarning) (hInfo : 0 ≤ policy.perInfo)
    (zeroAssertions : Bool) {few many : List Issue} (fewer : few.Sublist many) :
    let raws (issues : List Issue) := (categoryRaws Rat rules issues ctx failed).raws
    let scored (issues : List Issue) :=
      aggregate (α := Rat) (raws issues) (weightsFor t config.weights).entries issues policy
        zeroAssertions
    (raws few).map (·.category) = Category.all ∧ (raws many).map (·.category) = Category.all ∧
      List.Forall₂ (· ≤ ·) ((raws many).map (·.raw)) ((raws few).map (·.raw)) ∧
      ∃ better worse, scored few = .ok better ∧ scored many = .ok worse ∧
        worse.final ≤ better.final ∧ worse.score.value ≤ better.score.value := by
  intro raws scored
  have raws_eq (issues : List Issue) :
      raws issues = Category.all.map (rawIn Rat rules issues ctx failed) :=
    (categoryRaws_eq known issues ctx failed).1
  have in_order (issues : List Issue) : (raws issues).map (·.category) = Category.all :=
    categoryRaws_category rules issues ctx failed
  have raw_le := rawIn_antitone known hSmell failed fewer
  have final_le :
      (breakdownOf (α := Rat) (raws many) (weightsFor t config.weights) many policy
          zeroAssertions).final ≤
        (breakdownOf (α := Rat) (raws few) (weightsFor t config.weights) few policy
          zeroAssertions).final := by
    rw [raws_eq, raws_eq]
    apply final_mono (balanced_weightsFor accepted t) (rawIn_category _ _ _ _)
      (rawIn_category _ _ _ _) _ raw_le (total_pointsOf_mono hError hWarning hInfo fewer)
    intro c
    rw [rawIn_evidence, rawIn_evidence]
  refine ⟨in_order few, in_order many, ?_, _, _, aggregate_rat (in_order few) _ _ _ _,
    aggregate_rat (in_order many) _ _ _ _, final_le, Score.ofInt_mono final_le⟩
  rw [raws_eq, raws_eq, List.map_map, List.map_map]
  exact forall₂_map_all raw_le

/-- A configuration with weights of its own for unit tests. -/
def ownWeights : List (Text × Json) :=
  [("weights", .object [("unit", .object [("assertion_quality", .int 50),
    ("error_coverage", .int 10), ("boundary_conditions", .int 10), ("test_isolation", .int 10),
    ("input_variety", .int 10), ("ai_smells", .int 10)])])]

/-- A test that asserts nothing, without the two issues it has and with them. -/
theorem score_antitone_own_weights :
    let config : Config := { weights := [(.unit, ⟨50, 10, 10, 10, 10, 10⟩)] }
    let ctx : RuleContext := { suite := { tests := [{ name := "works" }] } }
    let bare := Rules.noAssertions.issue { message := "asserts nothing", span := .of 1 }
    let vague := Rules.vagueTestName.issue { message := "says little", span := .of 1 }
    let raws (issues : List Issue) := (categoryRaws Rat allRules issues ctx []).raws
    let scored (issues : List Issue) :=
      aggregate (α := Rat) (raws issues) (weightsFor .unit config.weights).entries issues {} true
    Config.ofFields registry ownWeights = .ok config ∧ 0 ≤ ctx.smells.pointsPerSmell ∧
      ((raws []).map (·.category) = Category.all ∧
        (raws [bare, vague]).map (·.category) = Category.all ∧
        List.Forall₂ (· ≤ ·) ((raws [bare, vague]).map (·.raw)) ((raws []).map (·.raw)) ∧
        ∃ better worse, scored [] = .ok better ∧ scored [bare, vague] = .ok worse ∧
          worse.final ≤ better.final ∧ worse.score.value ≤ better.score.value) :=
  have accepted : Config.ofFields registry ownWeights =
      .ok { weights := [(.unit, ⟨50, 10, 10, 10, 10, 10⟩)] } := rfl
  ⟨accepted, by decide, score_antitone accepted .unit (fun _ hr => hr) (by decide) [] (by decide)
    (by decide) (by decide) true (List.nil_sublist _)⟩

end SuiteAudit
