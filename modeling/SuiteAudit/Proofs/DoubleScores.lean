import Mathlib.Data.List.TakeWhile
import SuiteAudit.Proofs.Bounds
import SuiteAudit.Proofs.Doubles
import SuiteAudit.Proofs.Lending

/-!
# Scores in doubles

Scores are computed in doubles, and a double can run out. With balanced weights none does on the
way from the raw scores to the weighted total: every number on that way starts from whole ones of at
most a hundred, and the way is short (`breakdownFault?_double`). What is left are the values of
single tests, which penalties can lift to any height: they alone decide whether an audit has a fault
(`analysisFault?_double`).
-/

namespace SuiteAudit

open Decimal Rules ScoreNumber

/-! ### Whole numbers -/

theorem wholeFault?_double {n : Int} (h : n.natAbs ≤ largestWhole) :
    wholeFault? Float n = none := by
  unfold wholeFault?
  exact if_pos (quotientFits_of_le_largest h)

theorem ratioFault?_double {num den : Int} (hDen : 0 < den) (h : num.natAbs ≤ 2 ^ 1022 * den) :
    ratioFault? Float num den = none := by
  unfold ratioFault?
  exact if_pos (quotientFits_of_le hDen h)

/-- A sum of bounded numbers is bounded by their count. -/
theorem natAbs_wholeSum_le {bound : Nat} {ns : List Int} (h : ∀ n ∈ ns, n.natAbs ≤ bound) :
    (wholeSum ns).natAbs ≤ ns.length * bound := by
  induction ns with
  | nil => exact Nat.zero_le _
  | cons n ns ih =>
    have first := h n List.mem_cons_self
    have rest := ih fun m hm => h m (List.mem_cons_of_mem n hm)
    rw [wholeSum, List.length_cons, Nat.add_mul, Nat.one_mul]
    omega

/-! ### Points of rules -/

/-- A share is not a whole number of points. -/
theorem natAbs_share_le {count total : Nat} {n : Int}
    (h : (shareDelta count total).points.whole? = some n) : n.natAbs ≤ maxRaw := by
  unfold shareDelta at h
  split at h
  · obtain rfl := Option.some.inj h
    exact Nat.zero_le _
  · cases h

theorem sharedStatePoints_nonneg (bindings : List Binding) (flagged : List Int) :
    0 ≤ sharedStatePoints bindings flagged := by
  rw [sharedStatePoints, wholeSum_eq_sum]
  apply List.sum_nonneg
  intro n hn
  obtain ⟨b, -, rfl⟩ := List.mem_map.mp hn
  rw [Int.ofNat_eq_natCast]
  omega

theorem coverageDelta_covered_mem_range (total : Nat) (issues : List Issue) :
    0 ≤ (coverageDelta total issues).covered ∧
      (coverageDelta total issues).covered ≤ (coverageDelta total issues).total := by
  simp only [coverageDelta, Int.ofNat_eq_natCast]
  omega

section

variable {r : Rule} (h : r ∈ allRules) (issues : List Issue) (ctx : RuleContext)

include h

/-- **Only the shares of assertions and of tests are not whole points.** -/
theorem points_isWhole (hc : r.category ≠ some .assertionQuality) :
    (r.delta issues ctx).points.whole?.isSome = true := by
  cases scores_of_mem r h with
  | nothing h => rw [delta_of_deltaOf (deltaOf_nothing _ _ h)]; rfl
  | capped each cap h => rw [delta_of_deltaOf (deltaOf_capped _ _ h)]; rfl
  | smell h => rw [delta_of_deltaOf (deltaOf_smell _ _ h)]; rfl
  | weak => exact absurd rfl hc
  | bare => exact absurd rfl hc
  | snapshots => rfl
  | shared => rfl
  | failures => rfl
  | limits => rfl

/-- **Only generated-looking tests can cost more than a full raw score**, for the price is the
user's. -/
theorem natAbs_points_le (hc : r.category ≠ some .aiSmells) {n : Int}
    (hn : (r.delta issues ctx).points.whole? = some n) : n.natAbs ≤ maxRaw := by
  cases scores_of_mem r h with
  | nothing h =>
    rw [delta_of_deltaOf (deltaOf_nothing _ _ h)] at hn
    obtain rfl := Option.some.inj hn
    decide
  | capped each cap h hCap =>
    rw [delta_of_deltaOf (deltaOf_capped _ _ h)] at hn
    obtain rfl := Option.some.inj hn
    have cost : (0 : Int) ≤ Int.ofNat (Issue.ofRule issues r.id).length * each :=
      Int.mul_nonneg (Int.natCast_nonneg _) (Int.natCast_nonneg _)
    omega
  | smell h hSmell => exact absurd hSmell hc
  | weak =>
    rw [delta_of_deltaOf (deltaOf_weak _ _)] at hn
    exact natAbs_share_le hn
  | bare =>
    rw [delta_of_deltaOf (deltaOf_bare _ _)] at hn
    exact natAbs_share_le hn
  | snapshots =>
    obtain rfl := Option.some.inj hn
    split <;> decide
  | shared =>
    obtain rfl := Option.some.inj hn
    have cost := sharedStatePoints_nonneg ctx.suite.bindings
      ((Issue.ofRule issues sharedState.id).map (·.span.line))
    have full : maxRaw = 25 := rfl
    omega
  | failures =>
    obtain rfl := Option.some.inj hn
    decide
  | limits =>
    obtain rfl := Option.some.inj hn
    decide

/-- **No rule covers more facts than there are.** -/
theorem covered_mem_range :
    0 ≤ (r.delta issues ctx).covered ∧
      (r.delta issues ctx).covered ≤ (r.delta issues ctx).total := by
  have nothing : (0 : Int) ≤ 0 ∧ (0 : Int) ≤ 0 := ⟨le_rfl, le_rfl⟩
  cases scores_of_mem r h with
  | nothing h => rw [delta_of_deltaOf (deltaOf_nothing _ _ h)]; exact nothing
  | capped each cap h => rw [delta_of_deltaOf (deltaOf_capped _ _ h)]; exact nothing
  | smell h => rw [delta_of_deltaOf (deltaOf_smell _ _ h)]; exact nothing
  | weak => rw [delta_of_deltaOf (deltaOf_weak _ _), shareDelta]; split <;> exact nothing
  | bare => rw [delta_of_deltaOf (deltaOf_bare _ _), shareDelta]; split <;> exact nothing
  | snapshots => exact nothing
  | shared => exact nothing
  | failures => exact coverageDelta_covered_mem_range _ _
  | limits => exact coverageDelta_covered_mem_range _ _

end

/-! ### Raw scores -/

/-- Whole points alone are not added to others. -/
theorem pointFault?_of_whole {points : List Points} (h : ∀ p ∈ points, p.whole?.isSome = true) :
    pointFault? Float points = none := by
  have nothing_broken : brokenRest points = [] := List.dropWhile_eq_nil_iff.mpr h
  rw [pointFault?, nothing_broken]

/-- A few points that are each within a full raw score can be added up. -/
theorem pointFault?_of_le {points : List Points} (few : points.length ≤ allRules.length)
    (h : ∀ p ∈ points, ∀ n, p.whole? = some n → n.natAbs ≤ maxRaw) :
    pointFault? Float points = none := by
  have fits {n : Int} (hn : n.natAbs ≤ allRules.length * maxRaw) : wholeFault? Float n = none :=
    wholeFault?_double (le_largestWhole (hn.trans (by decide)))
  have front : wholeFault? Float (wholeFront points) = none := by
    apply fits
    have count : ((points.takeWhile (·.whole?.isSome)).filterMap Points.whole?).length ≤
        allRules.length :=
      (List.length_filterMap_le _ _).trans ((List.takeWhile_sublist _).length_le.trans few)
    have whole_le : ∀ n ∈ (points.takeWhile (·.whole?.isSome)).filterMap Points.whole?,
        n.natAbs ≤ maxRaw := by
      intro n hn
      obtain ⟨p, hp, hn⟩ := List.mem_filterMap.mp hn
      exact h p ((List.takeWhile_sublist _).subset hp) n hn
    exact (natAbs_wholeSum_le whole_le).trans (Nat.mul_le_mul_right _ count)
  unfold pointFault?
  split
  · rfl
  · rw [List.findSome?_cons, front, List.findSome?_eq_none_iff]
    intro n hn
    obtain ⟨p, hp, hn⟩ := List.mem_filterMap.mp hn
    have bounded := h p ((List.dropWhile_sublist _).subset hp) n hn
    exact fits (bounded.trans (by decide))

section

variable {rules : List Rule} (known : ∀ r ∈ rules, r ∈ allRules)
  (few : rules.length ≤ allRules.length) (issues : List Issue) (ctx : RuleContext)

include known few

/-- **The points of the rules of a category can be added up**: if some are shares, the others are
small. -/
theorem pointFault?_double {c : Category} (hc : ∀ r ∈ rules, r.category = some c) :
    pointFault? Float (rules.map fun r => (r.delta issues ctx).points) = none := by
  by_cases smells : c = .aiSmells
  · apply pointFault?_of_whole
    intro p hp
    obtain ⟨r, hr, rfl⟩ := List.mem_map.mp hp
    apply points_isWhole (known r hr)
    rw [hc r hr, smells]
    decide
  · apply pointFault?_of_le (by rwa [List.length_map])
    intro p hp n hn
    obtain ⟨r, hr, rfl⟩ := List.mem_map.mp hp
    apply natAbs_points_le (known r hr) issues ctx _ hn
    rw [hc r hr]
    simpa using smells

omit few in
/-- The rules of a category cover no more facts than there are. -/
theorem covered_ofRules :
    0 ≤ (Effect.ofRules rules issues ctx).covered ∧
      (Effect.ofRules rules issues ctx).covered ≤ (Effect.ofRules rules issues ctx).total := by
  have range (r : Rule) (hr : r ∈ rules.filter (·.requiresSource)) :=
    covered_mem_range (known r (List.mem_of_mem_filter hr)) issues ctx
  simp only [Effect.ofRules, wholeSum_eq_sum]
  constructor
  · apply List.sum_nonneg
    intro n hn
    obtain ⟨r, hr, rfl⟩ := List.mem_map.mp hn
    exact (range r hr).1
  · exact List.sum_le_sum fun r hr => (range r hr).2

theorem rawFault?_double {c : Category} (hc : ∀ r ∈ rules, r.category = some c) :
    rawFault? Float c ctx (Effect.ofRules rules issues ctx) = none := by
  have part (p : Rule → Bool) :
      pointFault? Float ((rules.filter p).map fun r => (r.delta issues ctx).points) = none :=
    pointFault?_double (fun r hr => known r (List.mem_of_mem_filter hr))
      ((List.length_filter_le _ _).trans few) issues ctx
      fun r hr => hc r (List.mem_of_mem_filter hr)
  have tests : pointFault? Float (Effect.ofRules rules issues ctx).testPoints = none := part _
  have sources : pointFault? Float (Effect.ofRules rules issues ctx).sourcePoints = none := part _
  obtain ⟨covered_nonneg, covered_le⟩ := covered_ofRules known issues ctx
  rw [rawFault?, tests, sources]
  split
  · next h =>
    simp only [Bool.and_eq_true, bne_iff_ne] at h
    have full : maxRaw = 25 := rfl
    exact ratioFault?_double (by omega) (by rw [full]; omega)
  · rfl

/-- **In doubles the raw scores of registered rules have no fault.** -/
theorem categoryRaws_fault_double (failed : List Text) :
    (categoryRaws Float rules issues ctx failed).fault = none := by
  apply categoryRaws_fault_of
  intro c before
  rw [deltasOf_eq known]
  dsimp only
  rw [Effect.of_map]
  apply rawFault?_double
  · exact fun r hr => known r (List.mem_of_mem_filter hr)
  · exact (List.length_filter_le _ _).trans few
  · intro r hr
    have scores := (List.mem_filter.mp hr).2
    exact category_of_scoresIn (Bool.and_eq_true_iff.mp scores).1

end

/-! ### Numbers on the way to a total -/

theorem below_ofInt {n : Int} {j : Nat} (h : 0 ≤ n) (hn : n ≤ 2 ^ j) (hj : j + 2 ≤ 900) :
    Below (j + 2) (ofInt n : Float) :=
  below_quotient h Int.one_pos (by rwa [Int.mul_one]) hj

/-- **A double within a bound can be rounded.** -/
theorem roundFault?_of_below {x : Float} {k : Nat} (h : Below k x) (hk : k + 2 ≤ 900) :
    roundFault? x = none := by
  have half_below : Below 0 (half : Float) := by decide +kernel
  have rounded := h.add (half_below.mono (Nat.zero_le k)) hk
  show (doubleNoWholePart? (x + half)).map ScoreFault.noWholePart = none
  rw [doubleNoWholePart?_of_below rounded]
  rfl

/-- Whole numbers from one to a hundred are doubles with a unit in the last place. -/
theorem multiple_ofInt {n : Int} (h : 0 < n) (hn : n ≤ 100) : Multiple 52 (ofInt n : Float) := by
  have all : ∀ k : Fin 101, k.val ≠ 0 → Multiple 52 (ofInt (k.val : Int) : Float) := by
    decide +kernel
  have := all ⟨n.toNat, by omega⟩ (by dsimp only; omega)
  rwa [Int.toNat_of_nonneg h.le] at this

section

variable {row : WeightRow} (balanced : row.Balanced)

include balanced

/-- No weight is more than a hundred. -/
theorem weight_le (c : Category) : row.get c ≤ 100 := by
  have nonneg := balanced.get_nonneg
  have total := balanced.total_eq
  unfold WeightRow.total at total
  have := nonneg .assertionQuality
  have := nonneg .errorCoverage
  have := nonneg .boundaryConditions
  have := nonneg .testIsolation
  have := nonneg .inputVariety
  have := nonneg .aiSmells
  cases c <;> simp only [WeightRow.get] at * <;> omega

theorem below_weight (c : Category) : Below 9 (ofInt (row.get c) : Float) :=
  below_ofInt (balanced.get_nonneg c) ((weight_le balanced c).trans (by decide)) (by decide)

theorem weightFault?_double (c : Category) : weightFault? Float row.entries c = none := by
  have nonneg := balanced.get_nonneg c
  have le := weight_le balanced c
  rw [weightFault?, lookup_entries]
  exact wholeFault?_double (le_largestWhole (by omega))

section

variable {f : Category → CategoryRaw} (hf : ∀ c, (f c).category = c)

include hf

/-- The weights that share in what is lent are at most a hundred together. -/
theorem measuredTotal_mem_range :
    0 ≤ wholeSum ((measuredWeights (Category.all.map f) row).map (·.2)) ∧
      wholeSum ((measuredWeights (Category.all.map f) row).map (·.2)) ≤ 100 := by
  have weight_nonneg : ∀ n ∈ Category.all.map row.get, 0 ≤ n := by
    intro n hn
    obtain ⟨c, -, rfl⟩ := List.mem_map.mp hn
    exact balanced.get_nonneg c
  have shared : ((Category.all.filter (sharesIn f row)).map row.get).Sublist
      (Category.all.map row.get) :=
    List.filter_sublist.map row.get
  have all : (Category.all.map row.get).sum = 100 := by
    rw [← balanced.total_eq]
    simp only [Category.all, List.map_cons, List.map_nil, List.sum_cons, List.sum_nil,
      WeightRow.get, WeightRow.total]
    ring
  rw [measuredWeights_map hf, wholeSum_eq_sum, List.map_map]
  constructor
  · exact List.sum_nonneg fun n hn => weight_nonneg n (shared.subset hn)
  · rw [← all]
    exact shared.sum_le_sum weight_nonneg

omit hf in
/-- What six categories lend at most is small. -/
theorem below_lentWeight : Below 22 (lentWeight (α := Float) (Category.all.map f) row) := by
  have part : Below 0 (ofInt 1 - unknownRatio : Float) := by decide +kernel
  set lent := ((Category.all.map f).filter (·.evidence == .unknown)).map fun r =>
    (ofInt (row.get r.category) * (ofInt 1 - unknownRatio) : Float) with hLent
  have count : lent.length ≤ 6 := by
    rw [hLent, List.length_map]
    exact (List.length_filter_le _ _).trans (by rw [List.length_map]; decide)
  have small : ∀ x ∈ lent, Below 10 x := by
    intro x hx
    obtain ⟨r, -, rfl⟩ := List.mem_map.mp hx
    exact (below_weight balanced r.category).mul part (by decide)
  exact (below_sum small (by omega)).mono (by omega)

/-- **What a category gains is small.** -/
theorem below_bonus (c : Category) :
    Below 85 ((lend (α := Float) (Category.all.map f) row).bonus c) := by
  have nothing : Below 0 (ofInt 0 : Float) := by decide +kernel
  obtain ⟨base_nonneg, base_le⟩ := measuredTotal_mem_range balanced hf
  apply Lending.bonus_of_mem (nothing.mono (by decide))
  intro e he
  unfold lend at he
  dsimp only at he
  split at he
  · cases he
  · next hSome =>
    have base_ne : wholeSum ((measuredWeights (Category.all.map f) row).map (·.2)) ≠ 0 := by
      intro h
      simp [h] at hSome
    obtain ⟨⟨d, weight⟩, hEntry, rfl⟩ := List.mem_map.mp he
    obtain ⟨d, -, hd⟩ := List.mem_map.mp hEntry
    obtain ⟨rfl, rfl⟩ := Prod.mk.inj hd
    have base := multiple_ofInt (by omega) base_le
    have product := (below_lentWeight balanced (f := f)).mul (below_weight balanced d) (by decide)
    exact product.div base (by decide)

/-- **The weighted raw score of a category is small.** -/
theorem below_weighted (r : CategoryRaw) :
    Below 148 (rowFor row (lend (α := Float) (Category.all.map f) row) r).weighted := by
  have raw : Below 7 (ofInt (max 0 (min 25 r.raw)) : Float) :=
    below_ofInt (by omega) (by omega) (by decide)
  have weight := (below_weight balanced r.category).mono (j := 85) (by decide)
  have total := weight.add (below_bonus balanced hf r.category) (by decide)
  exact (raw.mul total (by decide)).div (multiple_ofInt (by decide) (by decide)) (by decide)

/-! ### Faults -/

theorem lendFault?_double : lendFault? Float (Category.all.map f) row.entries = none := by
  obtain ⟨base_nonneg, base_le⟩ := measuredTotal_mem_range balanced hf
  unfold lendFault?
  dsimp only
  rw [List.findSome?_eq_none_iff.mpr fun c _ => weightFault?_double balanced c,
    List.findSome?_eq_none_iff.mpr fun c _ => missingFault?_entries row c,
    WeightRow.ofEntries_entries]
  split
  · rfl
  · exact wholeFault?_double (le_largestWhole (by omega))

/-- **In doubles the breakdown of one raw score for each category has no fault.** -/
theorem breakdownFault?_double :
    breakdownFault? Float (Category.all.map f) row.entries = none := by
  have by_category := map_category_map hf
  have weighted_below : ∀ x ∈ (rowsOf (α := Float) (Category.all.map f) row).map (·.weighted),
      Below 148 x := by
    rw [rowsOf_eq by_category, List.map_map]
    intro x hx
    obtain ⟨r, -, rfl⟩ := List.mem_map.mp hx
    exact below_weighted balanced hf r
  have six : ((rowsOf (α := Float) (Category.all.map f) row).map (·.weighted)).length = 6 := by
    rw [List.length_map, rowsOf, List.length_map]
    rfl
  have total := below_sum weighted_below (by omega)
  unfold breakdownFault?
  rw [missingCategories_eq_nil by_category]
  dsimp only
  rw [lendFault?_double balanced hf,
    List.findSome?_eq_none_iff.mpr fun c _ => weightFault?_double balanced c,
    WeightRow.ofEntries_entries]
  exact roundFault?_of_below total (by omega)

end

end

/-! ### Rankings -/

section

variable {row : WeightRow} (balanced : row.Balanced)

include balanced

omit balanced in
theorem testRaw_mem_range (t : TestCase) (issues : List Issue) (c : Category) :
    0 ≤ testRaw t issues c ∧ testRaw t issues c ≤ maxRaw := by
  have lost_nonneg :
      0 ≤ wholeSum ((issues.filter (·.category == some c)).map (issuePoints ·.severity)) := by
    rw [wholeSum_eq_sum]
    apply List.sum_nonneg
    intro n hn
    obtain ⟨i, -, rfl⟩ := List.mem_map.mp hn
    cases i.severity <;> decide
  unfold testRaw
  dsimp only
  split
  · exact ⟨le_rfl, Int.natCast_nonneg maxRaw⟩
  · omega

/-- What a test weighs in a category, before it is divided. -/
theorem testRaw_mul_mem_range (t : TestCase) (issues : List Issue) (c : Category) :
    0 ≤ testRaw t issues c * row.get c ∧ testRaw t issues c * row.get c ≤ 2500 := by
  obtain ⟨raw_nonneg, raw_le⟩ := testRaw_mem_range t issues c
  have full : (maxRaw : Int) = 25 := rfl
  have nonneg := balanced.get_nonneg c
  have le := weight_le balanced c
  exact ⟨Int.mul_nonneg raw_nonneg nonneg, by nlinarith⟩

theorem valueFault?_double (t : TestCase) (issues : List Issue) :
    valueFault? Float t issues row.entries = none := by
  have range (c : Category) := testRaw_mul_mem_range balanced t issues c
  have full : (maxRaw : Int) = 25 := rfl
  have weighted (c : Category) : weightedFault? Float t issues row.entries c = none := by
    obtain ⟨nonneg, le⟩ := range c
    rw [weightedFault?, lookup_entries]
    exact ratioFault?_double (by decide) (by rw [full]; omega)
  have part : ∀ x ∈ Category.all.map fun c =>
      (ratio (testRaw t issues c * row.get c) maxRaw : Float), Below 9 x := by
    intro x hx
    obtain ⟨c, -, rfl⟩ := List.mem_map.mp hx
    obtain ⟨nonneg, le⟩ := range c
    exact below_quotient nonneg (by decide) (by rw [full]; omega) (by decide)
  have total : Below 21 (weightedRaw Float t issues row) :=
    below_sum part (show 9 + 2 * 6 ≤ 900 by decide)
  rw [valueFault?, List.findSome?_eq_none_iff.mpr fun c _ => weighted c,
    WeightRow.ofEntries_entries]
  exact roundFault?_of_below total (by decide)

/-- **In doubles only the values of tests can be at fault**, unless a test has no end. -/
theorem rankFault?_double {tests : List TestCase} (short : ∀ t ∈ tests, t.span.lineCount ≤ 2 ^ 64)
    (issues : List Issue) (policy : PenaltyPolicy) :
    rankFault? Float tests issues row.entries policy =
      (testValues Float tests issues row policy).findSome? (wholeFault? Float) := by
  have values : valuesFault? Float tests issues row.entries = none :=
    List.findSome?_eq_none_iff.mpr fun p _ => valueFault?_double balanced p.1 p.2
  have complexities : complexityFault? Float tests = none := by
    apply List.findSome?_eq_none_iff.mpr
    intro t ht
    have := short t ht
    have := t.span.lineCount_pos
    exact ratioFault?_double (by decide) (by omega)
  rw [rankFault?, values, complexities, WeightRow.ofEntries_entries]
  rfl

end

/-- **Where penalties only take points, the values of tests are doubles.** -/
theorem wholeFault?_testValues {policy : PenaltyPolicy} (h : policy.Nonneg) (tests : List TestCase)
    (issues : List Issue) (row : WeightRow) :
    (testValues Float tests issues row policy).findSome? (wholeFault? Float) = none := by
  apply List.findSome?_eq_none_iff.mpr
  intro n hn
  obtain ⟨⟨t, bucket⟩, -, rfl⟩ := List.mem_map.mp hn
  have rounded : (roundHalfUp (weightedRaw Float t bucket row)).natAbs ≤ largestWhole :=
    natAbs_floorOfDouble_le _
  have taken := h.total_pointsOf bucket
  apply wholeFault?_double
  show (max 0 (roundHalfUp (weightedRaw Float t bucket row) -
    (policy.pointsOf bucket).total)).natAbs ≤ _
  omega

/-! ### The audit of a suite -/

section

variable {config : Config} {s : Suite} (balanced : (weightsIn config s).Balanced)

include balanced

/-- **In doubles only the values of tests can be at fault** in the audit of a suite. -/
theorem analysisFault?_double (short : ∀ t ∈ s.tests, t.span.lineCount ≤ 2 ^ 64)
    (facts : SourceFacts) :
    analysisFault? Float config (contextFor config s facts) (issuesIn config allRules s facts)
        (scoredIn Float config allRules s facts) =
      if config.perTest then
        (testValues Float s.tests (issuesIn config allRules s facts) (weightsIn config s)
          config.penalties).findSome? (wholeFault? Float)
      else none := by
  have known : ∀ r ∈ activeRules config.rules allRules, r ∈ allRules :=
    fun _ hr => mem_pool_of_mem_activeRules hr
  have few : (activeRules config.rules allRules).length ≤ allRules.length := by
    rw [activeRules, List.length_mergeSort]
    exact List.length_filter_le _ _
  have fault : (scoredIn Float config allRules s facts).fault = none :=
    categoryRaws_fault_double known few _ _ _
  have raws := (categoryRaws_eq (α := Float) known (issuesIn config allRules s facts)
    (contextFor config s facts)
    (runRules (activeRules config.rules allRules) (contextFor config s facts)).failed).1
  have breakdown : breakdownFault? Float (scoredIn Float config allRules s facts).raws
      (weightsIn config s).entries = none := by
    rw [scoredIn, raws]
    exact breakdownFault?_double balanced (rawIn_category _ _ _ _)
  unfold analysisFault?
  dsimp only
  rw [fault]
  show (breakdownFault? Float _ (weightsIn config s).entries <|> if config.perTest then
    rankFault? Float s.tests _ (weightsIn config s).entries config.penalties else none) = _
  rw [breakdown, rankFault?_double balanced short]
  rfl

end

end SuiteAudit
