import Mathlib.Algebra.BigOperators.Ring.List
import SuiteAudit.Proofs.Attribution
import SuiteAudit.Proofs.Monotone

/-!
# Scores of single tests

A ranking holds every test once, with the issues that lie in it (`rankTests_perm`), and what scaling
makes of a value depends on that value and the mean of all (`scaledBy`). Over the rationals scaling
keeps the order of values and takes the mean, weighted by how much each test does, down to the score
of the file; cutting a score at a hundred only lowers it. So tests never outshine their file
(`ranking_within_file`).
-/

namespace SuiteAudit

open ScoreNumber

/-! ### The order of a ranking -/

theorem TestScore.le_iff {a b : TestScore} :
    a.le b = true ↔
      a.score.value < b.score.value ∨
        a.score.value = b.score.value ∧ a.test.span.line ≤ b.test.span.line := by
  unfold TestScore.le
  split
  · next h =>
    have : a.score.value ≠ b.score.value := by simpa using h
    simp [this]
  · next h =>
    have : a.score.value = b.score.value := by simpa using h
    simp [this]

theorem TestScore.le_trans (a b c : TestScore) (hab : a.le b = true) (hbc : b.le c = true) :
    a.le c = true := by
  rw [TestScore.le_iff] at *
  omega

theorem TestScore.le_total (a b : TestScore) : (a.le b || b.le a) = true := by
  rw [Bool.or_eq_true, TestScore.le_iff, TestScore.le_iff]
  omega

/-! ### What a ranking holds -/

/-- Tests and the issues in them, paired up. -/
def withIssues (tests : List TestCase) (issues : List Issue) : List (TestCase × List Issue) :=
  tests.zip (attributeIssues tests issues)

theorem map_fst_withIssues (tests : List TestCase) (issues : List Issue) :
    (withIssues tests issues).map (·.1) = tests :=
  List.map_fst_zip (length_attributeIssues tests issues).ge

/-- What is computed of pairs stays with them. -/
theorem zip_map_zip {β γ δ : Type} (g : β × γ → δ) :
    ∀ (xs : List β) (ys : List γ),
      xs.zip (((xs.zip ys).map g).zip ys) = (xs.zip ys).map fun p => (p.1, g p, p.2)
  | [], _ => rfl
  | _ :: _, [] => rfl
  | x :: xs, y :: ys => congrArg ((x, g (x, y), y) :: ·) (zip_map_zip g xs ys)

section

variable {α : Type} [ScoreNumber α]

/-- **What scaling makes of a value**, where the mean of all values is `mean`. -/
def scaledBy (mean : α) (fileScore : Nat) (value : Int) : Int :=
  if lt (ofInt fileScore) mean then floor (ofInt value * (ofInt fileScore / mean)) else value

theorem scaleValues_eq_map (tests : List TestCase) (values : List Int) (fileScore : Nat) :
    scaleValues α tests values fileScore =
      values.map (scaledBy (weightedMean α tests values) fileScore) := by
  unfold scaleValues scaledBy
  dsimp only
  split
  · rfl
  · exact (List.map_id values).symm

variable (tests : List TestCase) (issues : List Issue) (fileScore : Nat) (row : WeightRow)
  (policy : PenaltyPolicy)

variable (α) in
/-- The mean of the values of tests before scaling. -/
def meanValue : α :=
  weightedMean α tests (testValues α tests issues row policy)

variable (α) in
/-- The value of a test with its issues, before scaling. -/
def valueOf (p : TestCase × List Issue) : Int :=
  testValue α p.1 p.2 row policy

variable (α) in
/-- The score of one of some tests. -/
def scoreOf (p : TestCase × List Issue) : TestScore where
  test := p.1
  score := .ofInt (scaledBy (meanValue α tests issues row policy) fileScore (valueOf α row policy p))
  issues := p.2

/-- **A ranking is a sorted list of scores**, one for each test with its issues. -/
theorem rankTests_eq :
    rankTests α tests issues fileScore row policy =
      ((withIssues tests issues).map
        (scoreOf α tests issues fileScore row policy)).mergeSort TestScore.le := by
  unfold rankTests
  dsimp only
  rw [scaleValues_eq_map]
  congr 1
  have values_eq : testValues α tests issues row policy =
      (withIssues tests issues).map (valueOf α row policy) := rfl
  rw [values_eq, List.map_map, ← values_eq]
  -- The two zips put every test beside its own value and issues, so they are one map over the pairs.
  show ((tests.zip (((withIssues tests issues).map _).zip (attributeIssues tests issues))).map _) = _
  rw [withIssues, zip_map_zip, List.map_map]
  rfl

theorem rankTests_perm :
    (rankTests α tests issues fileScore row policy).Perm
      ((withIssues tests issues).map (scoreOf α tests issues fileScore row policy)) := by
  rw [rankTests_eq]
  exact List.mergeSort_perm _ _

theorem exists_of_mem_rankTests {r : TestScore}
    (h : r ∈ rankTests α tests issues fileScore row policy) :
    ∃ p ∈ withIssues tests issues, scoreOf α tests issues fileScore row policy p = r :=
  List.mem_map.mp ((rankTests_perm tests issues fileScore row policy).mem_iff.mp h)

theorem rankTests_pairwise :
    (rankTests α tests issues fileScore row policy).Pairwise fun a b => a.le b = true := by
  rw [rankTests_eq]
  exact List.pairwise_mergeSort TestScore.le_trans TestScore.le_total _

theorem testValue_nonneg (t : TestCase) (bucket : List Issue) :
    0 ≤ testValue α t bucket row policy :=
  le_max_left 0 _

end

/-! ### Scaling over the rationals -/

theorem scaledBy_rat (mean : Rat) (fileScore : Nat) (value : Int) :
    scaledBy mean fileScore value =
      if (fileScore : Rat) < mean then ⌊(value : Rat) * (fileScore / mean)⌋ else value := by
  show (if decide (((fileScore : Int) : Rat) < mean) = true then
      ⌊(value : Rat) * (((fileScore : Int) : Rat) / mean)⌋ else value) = _
  simp only [decide_eq_true_eq, Int.cast_natCast]

section

variable {mean : Rat} {fileScore : Nat}

/-- Where values are scaled, by a factor that is not negative. -/
theorem factor_nonneg (h : (fileScore : Rat) < mean) : 0 ≤ (fileScore : Rat) / mean :=
  div_nonneg (Nat.cast_nonneg fileScore) ((Nat.cast_nonneg fileScore).trans h.le)

/-- **Scaling keeps the order of values.** -/
theorem scaledBy_mono {m n : Int} (h : m ≤ n) :
    scaledBy mean fileScore m ≤ scaledBy mean fileScore n := by
  rw [scaledBy_rat, scaledBy_rat]
  split
  · next hAbove =>
    apply Int.floor_le_floor
    exact mul_le_mul_of_nonneg_right (Int.cast_le.mpr h) (factor_nonneg hAbove)
  · exact h

theorem scaledBy_nonneg {value : Int} (h : 0 ≤ value) : 0 ≤ scaledBy mean fileScore value := by
  rw [scaledBy_rat]
  split
  · next hAbove =>
    exact Int.floor_nonneg.mpr (mul_nonneg (Int.cast_nonneg h) (factor_nonneg hAbove))
  · exact h

end

/-- A score is no more than the number it was made of, unless that is negative. -/
theorem Score.ofInt_le {n : Int} (h : 0 ≤ n) : ((Score.ofInt n).value : Int) ≤ n := by
  show ((min 100 n.toNat : Nat) : Int) ≤ n
  omega

theorem Score.ofInt_eq {n : Int} (h : 0 ≤ n) : ((Score.ofInt n).value : Int) = min 100 n := by
  show ((min 100 n.toNat : Nat) : Int) = min 100 n
  omega

/-! ### Weighted means -/

theorem complexity_pos (t : TestCase) : 0 < complexity Rat t := by
  have lines_pos : (0 : Rat) < t.span.lineCount := Int.cast_pos.mpr t.span.lineCount_pos
  have asserted : (0 : Rat) ≤ t.assertions.length := Nat.cast_nonneg _
  show (0 : Rat) < ((1 + t.assertions.length : Int) : Rat) + (t.span.lineCount : Rat) / 10
  push_cast
  linarith

/-- The tests of a file always do something, so their mean divides by more than nothing. -/
theorem sum_complexity_pos {tests : List TestCase} (h : tests ≠ []) :
    0 < (tests.map (complexity Rat)).sum := by
  apply List.sum_pos
  · intro x hx
    obtain ⟨t, -, rfl⟩ := List.mem_map.mp hx
    exact complexity_pos t
  · simpa using h

section

variable {β : Type} (test : β → TestCase)

/-- The mean of numbers, weighted by how much their tests do. -/
def meanOf (number : β → Rat) (xs : List β) : Rat :=
  (xs.map fun x => number x * complexity Rat (test x)).sum /
    (xs.map fun x => complexity Rat (test x)).sum

theorem weightedMean_map (value : β → Int) (xs : List β) :
    weightedMean Rat (xs.map test) (xs.map value) = meanOf test (fun x => value x) xs := by
  unfold weightedMean
  dsimp only
  rw [sum_rat, sum_rat, List.zip_map', List.map_map, List.map_map]
  rfl

theorem meanOf_perm (number : β → Rat) {xs ys : List β} (h : xs.Perm ys) :
    meanOf test number xs = meanOf test number ys := by
  rw [meanOf, meanOf, (h.map _).sum_eq, (h.map fun x => complexity Rat (test x)).sum_eq]

variable {test}

theorem meanOf_mono {p q : β → Rat} {xs : List β} (h : ∀ x ∈ xs, p x ≤ q x) :
    meanOf test p xs ≤ meanOf test q xs := by
  apply div_le_div_of_nonneg_right
  · apply List.sum_le_sum
    intro x hx
    exact mul_le_mul_of_nonneg_right (h x hx) (complexity_pos (test x)).le
  · apply List.sum_nonneg
    intro w hw
    obtain ⟨x, -, rfl⟩ := List.mem_map.mp hw
    exact (complexity_pos (test x)).le

theorem meanOf_mul_right (number : β → Rat) (factor : Rat) (xs : List β) :
    meanOf test (fun x => number x * factor) xs = meanOf test number xs * factor := by
  have pulled : (xs.map fun x => number x * factor * complexity Rat (test x)).sum =
      (xs.map fun x => number x * complexity Rat (test x)).sum * factor := by
    rw [← List.sum_map_mul_right]
    congr 1
    exact List.map_congr_left fun x _ => by ring
  rw [meanOf, meanOf, pulled, div_mul_eq_mul_div]

/-- **Scaled values have a mean of at most the score of the file**, also when scores are cut at a
hundred. -/
theorem meanOf_scaledBy_le {value : β → Int} {xs : List β} (hValue : ∀ x ∈ xs, 0 ≤ value x)
    (fileScore : Nat) :
    meanOf test (fun x => ((Score.ofInt
      (scaledBy (meanOf test (fun x => value x) xs) fileScore (value x))).value : Rat)) xs ≤
        fileScore := by
  set mean := meanOf test (fun x => (value x : Rat)) xs with hMean
  have cut_le : ∀ x ∈ xs, ((Score.ofInt (scaledBy mean fileScore (value x))).value : Rat) ≤
      (scaledBy mean fileScore (value x) : Int) := by
    intro x hx
    exact_mod_cast Score.ofInt_le (scaledBy_nonneg (hValue x hx))
  by_cases hAbove : (fileScore : Rat) < mean
  -- Every value is multiplied by the same factor and so is their mean; rounding down only lowers it.
  · have mean_ne : mean ≠ 0 := ((Nat.cast_nonneg fileScore).trans_lt hAbove).ne'
    calc
      _ ≤ meanOf test (fun x => (value x : Rat) * (fileScore / mean)) xs := by
          apply meanOf_mono
          intro x hx
          refine (cut_le x hx).trans ?_
          rw [scaledBy_rat, if_pos hAbove]
          exact Int.floor_le _
      _ = fileScore := by rw [meanOf_mul_right, ← hMean, mul_div_cancel₀ _ mean_ne]
  · calc
      _ ≤ mean := by
          apply meanOf_mono
          intro x hx
          refine (cut_le x hx).trans_eq ?_
          rw [scaledBy_rat, if_neg hAbove]
      _ ≤ fileScore := not_lt.mp hAbove

end

/-! ### The ranking of a file -/

section

variable (tests : List TestCase) (issues : List Issue) (row : WeightRow) (policy : PenaltyPolicy)

theorem meanValue_rat :
    meanValue Rat tests issues row policy =
      meanOf Prod.fst (fun p => valueOf Rat row policy p) (withIssues tests issues) := by
  have values_eq : testValues Rat tests issues row policy =
      (withIssues tests issues).map (valueOf Rat row policy) := rfl
  rw [meanValue, values_eq, ← weightedMean_map]
  congr 1
  exact (map_fst_withIssues tests issues).symm

/-- **The mean of the scores in a ranking is at most the score of the file.** -/
theorem weightedMean_rankTests_le (fileScore : Nat) :
    weightedMean Rat ((rankTests Rat tests issues fileScore row policy).map (·.test))
        ((rankTests Rat tests issues fileScore row policy).map fun r => (r.score.value : Int)) ≤
      fileScore := by
  rw [weightedMean_map, meanOf_perm _ _ (rankTests_perm tests issues fileScore row policy)]
  have scores : meanOf TestScore.test (fun r => ((r.score.value : Int) : Rat))
      ((withIssues tests issues).map (scoreOf Rat tests issues fileScore row policy)) =
        meanOf Prod.fst (fun p => ((Score.ofInt
          (scaledBy (meanValue Rat tests issues row policy) fileScore
            (valueOf Rat row policy p))).value : Rat)) (withIssues tests issues) := by
    rw [meanOf, meanOf, List.map_map, List.map_map]
    rfl
  rw [scores, meanValue_rat]
  exact meanOf_scaledBy_le (fun p _ => testValue_nonneg row policy p.1 p.2) fileScore

end

/-- **Tests never outshine their file.** A ranking is made without dividing by zero. It holds every
test once, with just the issues that lie in it, the weakest first and those of one score by their
first lines. A score is the value of its test, scaled where the mean of the values lies above the
score of the file, and cut at a hundred; so scores are ordered as values are, and their mean,
weighted by how much the tests do, is at most the score of the file. -/
theorem ranking_within_file {tests : List TestCase} (hTests : tests ≠ []) (issues : List Issue)
    (fileScore : Score) (t : TestType) (weights : WeightTable) (policy : PenaltyPolicy) :
    let row := weightsFor t weights
    let mean : Rat := weightedMean Rat tests (testValues Rat tests issues row policy)
    let ranking := rankTests Rat tests issues fileScore.value row policy
    let value (r : TestScore) := testValue Rat r.test r.issues row policy
    rankFault? Rat tests issues row.entries policy = none ∧
      0 < (tests.map (complexity Rat)).sum ∧ ((fileScore.value : Rat) < mean → 0 < mean) ∧
      (ranking.map fun r => (r.test, r.issues)).Perm (tests.zip (attributeIssues tests issues)) ∧
      ranking.Pairwise (fun a b =>
        a.score.value < b.score.value ∨
          a.score.value = b.score.value ∧ a.test.span.line ≤ b.test.span.line) ∧
      (∀ r ∈ ranking, r.score.value ≤ 100 ∧
        (r.score.value : Int) = min 100
          (if (fileScore.value : Rat) < mean then ⌊(value r : Rat) * (fileScore.value / mean)⌋
            else value r)) ∧
      weightedMean Rat (ranking.map (·.test)) (ranking.map fun r => (r.score.value : Int)) ≤
        fileScore.value ∧
      ∀ a ∈ ranking, ∀ b ∈ ranking, value a ≤ value b → a.score.value ≤ b.score.value := by
  intro row mean ranking value
  have perm := rankTests_perm (α := Rat) tests issues fileScore.value row policy
  have scaled_of_mem (r : TestScore) (hr : r ∈ ranking) :
      r.score = .ofInt (scaledBy mean fileScore.value (value r)) := by
    obtain ⟨p, -, rfl⟩ := exists_of_mem_rankTests tests issues fileScore.value row policy hr
    rfl
  have value_nonneg (r : TestScore) : 0 ≤ value r := testValue_nonneg row policy r.test r.issues
  refine ⟨rankFault?_rat tests issues row policy, sum_complexity_pos hTests,
    (Nat.cast_nonneg fileScore.value).trans_lt, ?_, ?_, ?_,
    weightedMean_rankTests_le tests issues row policy fileScore.value, ?_⟩
  · have paired := perm.map fun r => (r.test, r.issues)
    rw [List.map_map] at paired
    exact paired.trans (.of_eq (List.map_id _))
  · exact (rankTests_pairwise tests issues fileScore.value row policy).imp TestScore.le_iff.mp
  · intro r hr
    refine ⟨r.score.value_le, ?_⟩
    rw [scaled_of_mem r hr, Score.ofInt_eq (scaledBy_nonneg (value_nonneg r)), scaledBy_rat]
  · intro a ha b hb h
    rw [scaled_of_mem a ha, scaled_of_mem b hb]
    exact Score.ofInt_mono (scaledBy_mono h)

/-- Two tests of a file at 47 whose values lie far above it; the second asserts nothing, and an issue
lies in it. -/
theorem ranking_within_file_scaled :
    let adds : TestCase :=
      { name := "adds", span := .of 1 1 3, assertions := [{ matcher := "toBe" }] }
    let draws : TestCase := { name := "draws", span := .of 5 1 9 }
    let found : Issue :=
      { rule := "limited-input-variety", severity := .warning, message := "says little"
        span := .of 6, category := some .inputVariety }
    let tests := [adds, draws]
    let ranking := rankTests Rat tests [found] 47 (weightsFor .unit) {}
    tests ≠ [] ∧
      (47 : Rat) < weightedMean Rat tests (testValues Rat tests [found] (weightsFor .unit) {}) ∧
      (ranking.map fun r => (r.test, r.issues)).Perm [(adds, []), (draws, [found])] ∧
      weightedMean Rat (ranking.map (·.test)) (ranking.map fun r => (r.score.value : Int)) ≤ 47 := by
  intro adds draws found tests ranking
  have tests_ne : tests ≠ [] := List.cons_ne_nil _ _
  obtain ⟨-, -, -, paired, -, -, mean_le, -⟩ :=
    ranking_within_file tests_ne [found] (.ofInt 47) .unit [] {}
  exact ⟨tests_ne, by decide +kernel, paired, by exact_mod_cast mean_le⟩

end SuiteAudit
