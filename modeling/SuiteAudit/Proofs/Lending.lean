import Mathlib.Algebra.BigOperators.Ring.List
import SuiteAudit.Proofs.Fairness

/-!
# What lent weight earns

A category that could not be measured lends a part of its weight to the measured ones. All that is
lent goes to some row of the breakdown (`sum_bonus`), so a weighted total is made of the points of
the rows for their nominal weights and of those for lent weight (`weightedTotal_analysisIn`), and
the latter are no more than is lent (`earned_mem_range`).
-/

namespace SuiteAudit

open Rules ScoreNumber

/-! ### Lending by category -/

/-- Nothing is dropped where nothing is repeated. -/
theorem eraseDups_of_nodup {β : Type} [BEq β] [LawfulBEq β] {xs : List β} (h : xs.Nodup) :
    xs.eraseDups = xs := by
  induction xs with
  | nil => rfl
  | cons x xs ih =>
    obtain ⟨hNew, hRest⟩ := List.nodup_cons.mp h
    have others : xs.filter (fun y => !y == x) = xs := by
      rw [List.filter_eq_self]
      intro y hy
      have : y ≠ x := by
        rintro rfl
        exact hNew hy
      simp [this]
    rw [List.eraseDups_cons, others, ih hRest]

/-- Whether a category shares in what is lent. -/
def sharesIn (f : Category → CategoryRaw) (row : WeightRow) (c : Category) : Bool :=
  (f c).evidence == .measured && 0 < row.get c

/-- A list by category is looked up by category. -/
theorem lookup_map_filter {β : Type} (p : Category → Bool) (g : Category → β) {cs : List Category}
    {c : Category} (h : c ∈ cs) :
    ((cs.filter p).map fun d => (d, g d)).lookup c = if p c then some (g c) else none := by
  have not_found {ds : List Category} (h : c ∉ ds) :
      (ds.map fun d => (d, g d)).lookup c = none := by
    rw [List.lookup_eq_none_iff]
    simp only [List.mem_map, forall_exists_index, and_imp, forall_apply_eq_imp_iff₂]
    intro d hd
    rw [bne_iff_ne]
    rintro rfl
    exact h hd
  cases hp : p c with
  | false => exact not_found fun hc => by simp [hp] at hc
  | true => exact List.lookup_graph g (List.mem_filter.mpr ⟨h, hp⟩)

/-- A sum over some is a sum over all, the others counting nothing. -/
theorem sum_map_ite (p : Category → Bool) (g : Category → Rat) (cs : List Category) :
    (cs.map fun c => if p c then g c else 0).sum = ((cs.filter p).map g).sum := by
  induction cs with
  | nil => rfl
  | cons c cs ih =>
    rw [List.map_cons, List.sum_cons, ih, List.filter_cons]
    cases p c with
    | true => rw [if_pos rfl, if_pos rfl, List.map_cons, List.sum_cons]
    | false => rw [if_neg Bool.false_ne_true, if_neg Bool.false_ne_true, zero_add]

/-- **All that the unmeasured categories lend is moved**, unless no measured one can share in it. -/
theorem moved_eq (raws : List CategoryRaw) (row : WeightRow) :
    (lend (α := Rat) raws row).moved =
      if wholeSum ((measuredWeights raws row).map (·.2)) = 0 then 0 else lentWeight raws row := by
  have zero_iff : isZero (lentWeight raws row : Rat) = true ↔ lentWeight (α := Rat) raws row = 0 :=
    decide_eq_true_iff
  unfold lend
  dsimp only
  split
  · next h =>
    rw [Bool.or_eq_true, zero_iff, beq_iff_eq] at h
    split
    · exact Int.cast_zero
    · next hBase => exact Int.cast_zero.trans (h.resolve_right hBase).symm
  · next h =>
    rw [Bool.or_eq_true, zero_iff, beq_iff_eq, not_or] at h
    rw [if_neg h.2]

section

variable {f : Category → CategoryRaw} (hf : ∀ c, (f c).category = c) (row : WeightRow)

include hf

/-- The measured categories, where raw scores are given by category. -/
theorem measuredWeights_map :
    measuredWeights (Category.all.map f) row =
      (Category.all.filter (sharesIn f row)).map fun c => (c, row.get c) := by
  have kept : ((Category.all.map f).filter fun r =>
      r.evidence == .measured && 0 < row.get r.category).map (·.category) =
        Category.all.filter (sharesIn f row) := by
    rw [List.filter_map, List.map_map]
    calc
      (Category.all.filter ((fun r : CategoryRaw => r.evidence == .measured &&
            0 < row.get r.category) ∘ f)).map ((·.category) ∘ f)
          = (Category.all.filter (sharesIn f row)).map id := by
            rw [List.filter_congr fun c _ => show _ = sharesIn f row c by
              rw [Function.comp_apply, hf, sharesIn]]
            exact List.map_congr_left fun c _ => hf c
      _ = Category.all.filter (sharesIn f row) := List.map_id _
  have nodup : (Category.all.filter (sharesIn f row)).Nodup :=
    List.Nodup.filter _ (by decide)
  rw [measuredWeights, kept, eraseDups_of_nodup nodup]

/-- **A category gains its share of what is lent**, in proportion to its weight, if it shares in it
at all. -/
theorem bonus_map (c : Category) :
    (lend (α := Rat) (Category.all.map f) row).bonus c =
      if sharesIn f row c then
        (lend (α := Rat) (Category.all.map f) row).moved * row.get c /
          wholeSum ((measuredWeights (Category.all.map f) row).map (·.2))
      else 0 := by
  unfold lend
  dsimp only
  split
  · have nothing : (ofInt 0 : Rat) = 0 := Int.cast_zero
    show (ofInt 0 : Rat) = _
    rw [nothing, zero_mul, zero_div, ite_self]
  · set moved : Rat := lentWeight (Category.all.map f) row
    set base := wholeSum ((measuredWeights (Category.all.map f) row).map (·.2))
    rw [measuredWeights_map hf, Lending.bonus, List.map_map]
    show (((Category.all.filter (sharesIn f row)).map fun d =>
      (d, moved * row.get d / base)).lookup c).getD 0 = _
    rw [lookup_map_filter (sharesIn f row) (fun d => moved * row.get d / base)
      (Category.mem_all c)]
    split <;> rfl

/-- **All that is lent goes to some category.** -/
theorem sum_bonus :
    (Category.all.map (lend (α := Rat) (Category.all.map f) row).bonus).sum =
      (lend (α := Rat) (Category.all.map f) row).moved := by
  set moved := (lend (α := Rat) (Category.all.map f) row).moved with hMoved
  set base := wholeSum ((measuredWeights (Category.all.map f) row).map (·.2)) with hBase
  have base_eq : (base : Rat) =
      ((Category.all.filter (sharesIn f row)).map fun c => (row.get c : Rat)).sum := by
    rw [hBase, measuredWeights_map hf, wholeSum_eq_sum, List.map_map]
    refine (map_list_sum (Int.castRingHom Rat) _).trans ?_
    rw [List.map_map]
    rfl
  have moved_of_base : (base : Rat) = 0 → moved = 0 := by
    intro h
    rw [hMoved, moved_eq, if_pos (Int.cast_eq_zero.mp h)]
  calc
    (Category.all.map (Lending.bonus _)).sum
        = ((Category.all.filter (sharesIn f row)).map fun c => moved * row.get c / base).sum := by
          rw [List.map_congr_left fun c _ => bonus_map hf row c, sum_map_ite]
    _ = ((Category.all.filter (sharesIn f row)).map fun c => moved / base * row.get c).sum := by
          congr 1
          exact List.map_congr_left fun c _ => by ring
    _ = moved / base * base := by rw [List.sum_map_mul_left, base_eq]
    _ = moved := div_mul_cancel_of_imp moved_of_base

/-- What the unmeasured categories lend: two fifths of their weights. -/
theorem lentWeight_map :
    lentWeight (α := Rat) (Category.all.map f) row =
      (Category.all.map fun c =>
        if (f c).evidence == .unknown then (row.get c : Rat) * (2 / 5) else 0).sum := by
  rw [lentWeight, sum_rat, List.filter_map, List.map_map,
    sum_map_ite (fun c => (f c).evidence == .unknown) fun c => (row.get c : Rat) * (2 / 5)]
  congr 1
  apply List.map_congr_left
  intro c _
  rw [Function.comp_apply, hf, unknownRatio_rat, ofInt_rat, ofInt_rat]
  norm_num

end

/-- **Where everything was measured nothing is lent.** -/
theorem lend_of_measured {f : Category → CategoryRaw} (measured : ∀ c, (f c).evidence ≠ .unknown)
    (row : WeightRow) :
    lend (α := Rat) (Category.all.map f) row = { bonuses := [], moved := 0 } := by
  have no_unknown : (Category.all.map f).filter (·.evidence == .unknown) = [] := by
    rw [List.filter_eq_nil_iff]
    intro r hr
    obtain ⟨c, -, rfl⟩ := List.mem_map.mp hr
    simpa using measured c
  have nothing : lentWeight (α := Rat) (Category.all.map f) row = 0 := by
    rw [lentWeight, no_unknown]
    rfl
  rw [lend, nothing]
  rfl

/-- No more is moved than is lent. -/
theorem moved_le_lentWeight {row : WeightRow} (balanced : row.Balanced) (raws : List CategoryRaw) :
    (lend (α := Rat) raws row).moved ≤ lentWeight raws row := by
  rw [moved_eq]
  split
  · exact lentWeight_nonneg balanced raws
  · exact le_rfl

/-- **No more is lent than two fifths of the weights that need a source.** -/
theorem moved_le {f : Category → CategoryRaw} (hf : ∀ c, (f c).category = c) {row : WeightRow}
    (balanced : row.Balanced) (needed : ∀ c, (f c).evidence = .unknown → c.needsSource = true) :
    (lend (α := Rat) (Category.all.map f) row).moved ≤
      2 / 5 * (row.get .errorCoverage + row.get .boundaryConditions) := by
  have weight_nonneg (c : Category) : (0 : Rat) ≤ row.get c * (2 / 5) :=
    mul_nonneg (Int.cast_nonneg (balanced.get_nonneg c)) (by norm_num)
  have lent_le : lentWeight (α := Rat) (Category.all.map f) row ≤
      (Category.all.map fun c => if c.needsSource then (row.get c : Rat) * (2 / 5) else 0).sum := by
    rw [lentWeight_map hf]
    apply List.sum_le_sum
    intro c _
    by_cases hUnknown : (f c).evidence = .unknown
    · simp [hUnknown, needed c hUnknown]
    · rw [if_neg (by simpa using hUnknown)]
      split
      · exact weight_nonneg c
      · exact le_rfl
  have needed_eq : (Category.all.map fun c =>
      if c.needsSource then (row.get c : Rat) * (2 / 5) else 0).sum =
        2 / 5 * (row.get .errorCoverage + row.get .boundaryConditions) := by
    simp only [Category.all, Category.needsSource, List.map_cons, List.map_nil, List.sum_cons,
      List.sum_nil, if_true, Bool.false_eq_true, if_false]
    ring
  exact (moved_le_lentWeight balanced _).trans (lent_le.trans needed_eq.le)

/-! ### What rows earn -/

namespace Breakdown

/-- **The points of the rows for their nominal weights.** -/
def nominal (b : Breakdown Rat) : Rat :=
  (b.rows.map fun r => (r.raw : Rat) * (r.weight : Rat) / 25).sum

/-- **The points of the rows for weight that was lent to them.** -/
def earned (b : Breakdown Rat) : Rat :=
  (b.rows.map fun r => (r.raw : Rat) * r.weightBonus / 25).sum

end Breakdown

section

variable (config : Config) (s : Suite) (facts : SourceFacts)

/-- The weights that a suite is scored by. -/
def weightsIn : WeightRow :=
  weightsFor (classify s.path s.imports s.framework) config.weights

/-- What is lent in the audit of a suite. -/
def lendingIn : Lending Rat :=
  lend (Category.all.map (rawOfAudit config s facts)) (weightsIn config s)

theorem raws_scoredIn :
    (scoredIn Rat config allRules s facts).raws = Category.all.map (rawOfAudit config s facts) :=
  (categoryRaws_eq (fun _ hr => mem_pool_of_mem_activeRules hr) _ _ _).1

theorem rawOfAudit_category (c : Category) : (rawOfAudit config s facts c).category = c :=
  rawIn_category _ _ _ _ c

/-- **The rows of the audit of a suite**, category by category. -/
theorem rows_analysisIn :
    (analysisIn Rat config allRules s facts).breakdown.rows =
      Category.all.map fun c =>
        rowFor (weightsIn config s) (lendingIn config s facts) (rawOfAudit config s facts c) := by
  show rowsOf (scoredIn Rat config allRules s facts).raws (weightsIn config s) = _
  rw [raws_scoredIn, rowsOf_map (rawOfAudit_category config s facts)]
  rfl

theorem redistributedWeight_analysisIn :
    (analysisIn Rat config allRules s facts).breakdown.redistributedWeight =
      (lendingIn config s facts).moved := by
  show (lend (scoredIn Rat config allRules s facts).raws (weightsIn config s)).moved = _
  rw [raws_scoredIn]
  rfl

/-- A row has the raw score that was given, which is in range. -/
theorem rowFor_raw (row : WeightRow) (lending : Lending Rat) (c : Category) :
    (rowFor row lending (rawOfAudit config s facts c)).raw = (rawOfAudit config s facts c).raw := by
  obtain ⟨hLow, hHigh⟩ : 0 ≤ (rawOfAudit config s facts c).raw ∧
      (rawOfAudit config s facts c).raw ≤ 25 := rawIn_mem_range _ _ _ _ c
  show max 0 (min 25 (rawOfAudit config s facts c).raw) = _
  rw [min_eq_right hHigh, max_eq_right hLow]

theorem nominal_analysisIn :
    (analysisIn Rat config allRules s facts).breakdown.nominal =
      (Category.all.map fun c =>
        ((rawOfAudit config s facts c).raw : Rat) * (weightsIn config s).get c / 25).sum := by
  rw [Breakdown.nominal, rows_analysisIn, List.map_map]
  congr 1
  apply List.map_congr_left
  intro c _
  rw [Function.comp_apply, rowFor_raw]
  rw [show (rowFor (weightsIn config s) (lendingIn config s facts)
    (rawOfAudit config s facts c)).weight =
      (weightsIn config s).get (rawOfAudit config s facts c).category from rfl,
    rawOfAudit_category]

theorem earned_analysisIn :
    (analysisIn Rat config allRules s facts).breakdown.earned =
      (Category.all.map fun c =>
        ((rawOfAudit config s facts c).raw : Rat) *
          (lendingIn config s facts).bonus c / 25).sum := by
  rw [Breakdown.earned, rows_analysisIn, List.map_map]
  congr 1
  apply List.map_congr_left
  intro c _
  rw [Function.comp_apply, rowFor_raw]
  rw [show (rowFor (weightsIn config s) (lendingIn config s facts)
    (rawOfAudit config s facts c)).weightBonus =
      (lendingIn config s facts).bonus (rawOfAudit config s facts c).category from rfl,
    rawOfAudit_category]

/-- **A weighted total is made of nominal and earned points.** -/
theorem weightedTotal_analysisIn :
    (analysisIn Rat config allRules s facts).breakdown.weightedTotal =
      max 0 (min 100 (roundHalfUp
        ((analysisIn Rat config allRules s facts).breakdown.nominal +
          (analysisIn Rat config allRules s facts).breakdown.earned))) := by
  have split_rows (rows : List (CategoryRow Rat))
      (made : ∀ r ∈ rows, r.weighted = (r.raw : Rat) * (r.weight + r.weightBonus) / 25) :
      (rows.map (·.weighted)).sum =
        (rows.map fun r => (r.raw : Rat) * (r.weight : Rat) / 25).sum +
          (rows.map fun r => (r.raw : Rat) * r.weightBonus / 25).sum := by
    rw [← List.sum_map_add]
    congr 1
    exact List.map_congr_left fun r hr => by rw [made r hr]; ring
  rw [Breakdown.nominal, Breakdown.earned, ← split_rows, ← sum_rat]
  · rfl
  · intro r hr
    rw [rows_analysisIn] at hr
    obtain ⟨c, -, rfl⟩ := List.mem_map.mp hr
    rfl

end

section

variable {config : Config} {s : Suite} (balanced : (weightsIn config s).Balanced)
  (facts : SourceFacts)

include balanced

/-- **Lent weight earns no more than is lent**: a raw score is at most twenty-five. -/
theorem earned_mem_range :
    0 ≤ (analysisIn Rat config allRules s facts).breakdown.earned ∧
      (analysisIn Rat config allRules s facts).breakdown.earned ≤
        (analysisIn Rat config allRules s facts).breakdown.redistributedWeight := by
  have bonus_nonneg (c : Category) : 0 ≤ (lendingIn config s facts).bonus c :=
    bonus_nonneg balanced _ c
  have range (c : Category) : (0 : Rat) ≤ (rawOfAudit config s facts c).raw ∧
      ((rawOfAudit config s facts c).raw : Rat) ≤ 25 := by
    have hRange : 0 ≤ (rawOfAudit config s facts c).raw ∧ (rawOfAudit config s facts c).raw ≤ 25 :=
      rawIn_mem_range _ _ _ _ c
    exact_mod_cast hRange
  rw [earned_analysisIn, redistributedWeight_analysisIn]
  constructor
  · apply List.sum_nonneg
    intro x hx
    obtain ⟨c, -, rfl⟩ := List.mem_map.mp hx
    exact div_nonneg (mul_nonneg (range c).1 (bonus_nonneg c)) (by norm_num)
  · calc
      _ ≤ (Category.all.map (lendingIn config s facts).bonus).sum := by
          apply List.sum_le_sum
          intro c _
          have := mul_le_mul_of_nonneg_right (range c).2 (bonus_nonneg c)
          linarith
      _ = (lendingIn config s facts).moved :=
          sum_bonus (rawOfAudit_category config s facts) (weightsIn config s)

theorem redistributedWeight_le :
    (analysisIn Rat config allRules s facts).breakdown.redistributedWeight ≤
      2 / 5 * ((weightsIn config s).get .errorCoverage +
        (weightsIn config s).get .boundaryConditions) := by
  rw [redistributedWeight_analysisIn]
  apply moved_le (rawOfAudit_category config s facts) balanced
  intro c hUnknown
  rw [rawOfAudit, rawIn_evidence] at hUnknown
  split at hUnknown
  · cases hUnknown
  · split at hUnknown
    · next h => exact (Bool.and_eq_true_iff.mp h).1
    · cases hUnknown

omit balanced

/-- With a source nothing is lent. -/
theorem lendingIn_of_available (hFacts : facts.available = true) :
    lendingIn config s facts = { bonuses := [], moved := 0 } := by
  apply lend_of_measured
  intro c hUnknown
  have hFacts : (contextFor config s facts).facts.available = true := hFacts
  rw [rawOfAudit, rawIn_evidence, hFacts, Bool.not_true, Bool.and_false] at hUnknown
  split at hUnknown <;> cases hUnknown

theorem earned_of_available (hFacts : facts.available = true) :
    (analysisIn Rat config allRules s facts).breakdown.earned = 0 := by
  rw [earned_analysisIn, lendingIn_of_available facts hFacts]
  apply List.sum_eq_zero
  intro x hx
  obtain ⟨c, -, rfl⟩ := List.mem_map.mp hx
  have nothing : Lending.bonus { bonuses := [], moved := (0 : Rat) } c = 0 := Int.cast_zero
  rw [nothing, mul_zero, zero_div]

end

end SuiteAudit
