import Mathlib.Algebra.Order.BigOperators.Group.List
import Mathlib.Data.Rat.Floor
import Mathlib.Tactic.Linarith
import SuiteAudit.Score.Category

/-!
# Scores in exact numbers

What the arithmetic of scoring comes to over the rationals: bounding is `min` and `max`, rounding is
a floor, and the points of rules are a plain sum (`pointSum_rat`). All of it keeps the order of its
arguments, which is what the comparisons of two audits rest on.
-/

namespace SuiteAudit

/-- The sum of whole numbers is the sum of a list. -/
theorem wholeSum_eq_sum (ns : List Int) : wholeSum ns = ns.sum := by
  induction ns with
  | nil => rfl
  | cons n ns ih => rw [wholeSum, ih, List.sum_cons]

/-! ### Operations on numbers -/

namespace ScoreNumber

@[simp] theorem ofInt_rat (n : Int) : (ofInt n : Rat) = n := rfl

@[simp] theorem ratio_rat (a b : Int) : (ratio a b : Rat) = (a : Rat) / b := rfl

@[simp] theorem unknownRatio_rat : (unknownRatio : Rat) = 3 / 5 := rfl

theorem lesser_rat (a b : Rat) : lesser a b = min a b := by
  show (if decide (b < a) then b else a) = min a b
  rcases lt_or_ge b a with h | h
  · simp [h, min_eq_right h.le]
  · simp [h.not_gt, min_eq_left h]

theorem greater_rat (a b : Rat) : greater a b = max a b := by
  show (if decide (a < b) then b else a) = max a b
  rcases lt_or_ge a b with h | h
  · simp [h, max_eq_right h.le]
  · simp [h.not_gt, max_eq_left h]

theorem clampRaw_rat (x : Rat) : clampRaw x = max 0 (min 25 x) := by
  rw [clampRaw, clampTo, greater_rat, lesser_rat]
  norm_num

theorem roundHalfUp_rat (x : Rat) : roundHalfUp x = ⌊x + 1 / 2⌋ := rfl

theorem sum_rat (xs : List Rat) : sum xs = xs.sum := by
  show xs.foldl (· + ·) ((0 : Int) : Rat) = xs.sum
  rw [Int.cast_zero, List.sum_eq_foldl]

/-! ### Order -/

theorem clampRaw_mono {x y : Rat} (h : x ≤ y) : clampRaw x ≤ clampRaw y := by
  rw [clampRaw_rat, clampRaw_rat]
  exact max_le_max le_rfl (min_le_min le_rfl h)

/-- Bounding a number does not move it further than it was moved. -/
theorem clampRaw_le_add {x y d : Rat} (hd : 0 ≤ d) (h : x ≤ y + d) :
    clampRaw x ≤ clampRaw y + d := by
  rw [clampRaw_rat, clampRaw_rat, max_le_iff]
  refine ⟨add_nonneg (le_max_left 0 _) hd, ?_⟩
  calc
    min 25 x ≤ min (25 + d) (y + d) := min_le_min (by linarith) h
    _ = min 25 y + d := min_add_add_right 25 y d
    _ ≤ max 0 (min 25 y) + d := by linarith [le_max_right 0 (min 25 y)]

theorem clampRaw_nonneg (x : Rat) : 0 ≤ clampRaw x := by
  rw [clampRaw_rat]
  exact le_max_left 0 _

theorem clampRaw_le (x : Rat) : clampRaw x ≤ 25 := by
  rw [clampRaw_rat]
  exact max_le (by norm_num) (min_le_left 25 x)

/-- A number in the range of a raw score stays as it is. -/
theorem clampRaw_clampRaw (x : Rat) : clampRaw (clampRaw x) = clampRaw x := by
  rw [clampRaw_rat (clampRaw x), min_eq_right (clampRaw_le x), max_eq_right (clampRaw_nonneg x)]

theorem roundHalfUp_mono {x y : Rat} (h : x ≤ y) : roundHalfUp x ≤ roundHalfUp y := by
  rw [roundHalfUp_rat, roundHalfUp_rat]
  exact Int.floor_le_floor (by linarith)

theorem roundHalfUp_le_add {x y : Rat} {n : Int} (h : x ≤ y + n) :
    roundHalfUp x ≤ roundHalfUp y + n := by
  rw [roundHalfUp_rat, roundHalfUp_rat, ← Int.floor_add_intCast]
  exact Int.floor_le_floor (by linarith)

/-- Rounding a number below a whole one stays below it. -/
theorem roundHalfUp_le {x : Rat} {n : Int} (h : x ≤ n) : roundHalfUp x ≤ n := by
  rw [roundHalfUp_rat, ← Int.lt_add_one_iff, Int.floor_lt]
  push_cast
  linarith

theorem le_roundHalfUp {x : Rat} {n : Int} (h : (n : Rat) ≤ x) : n ≤ roundHalfUp x := by
  rw [roundHalfUp_rat, Int.le_floor]
  linarith

end ScoreNumber

open ScoreNumber

/-! ### Unmeasured categories -/

theorem unknownValue_rat (x : Rat) : unknownValue x = ⌊x * (3 / 5) + 1 / 2⌋ := rfl

theorem unknownValue_mono {x y : Rat} (h : x ≤ y) : unknownValue x ≤ unknownValue y := by
  rw [unknownValue_rat, unknownValue_rat]
  exact Int.floor_le_floor (by linarith)

/-- **An unmeasured category keeps at most fifteen points.** -/
theorem unknownValue_clampRaw_le (x : Rat) : unknownValue (clampRaw x) ≤ 15 := by
  apply roundHalfUp_le
  rw [unknownRatio_rat]
  push_cast
  linarith [clampRaw_le x]

theorem unknownValue_clampRaw_nonneg (x : Rat) : 0 ≤ unknownValue (clampRaw x) := by
  apply le_roundHalfUp
  rw [unknownRatio_rat]
  push_cast
  linarith [clampRaw_nonneg x]

/-- **At most ten points are lost by not being measured**, as long as there was nothing to find. -/
theorem roundHalfUp_le_unknownValue_add (x : Rat) :
    roundHalfUp (clampRaw x) ≤ unknownValue (clampRaw x) + 10 := by
  rw [roundHalfUp_rat, unknownValue_rat, ← Int.floor_add_ofNat]
  apply Int.floor_le_floor
  linarith [clampRaw_le x]

/-! ### Points -/

@[simp] theorem Points.value_whole (n : Int) : (Points.whole n).value = (n : Rat) := rfl

theorem Points.value_share (part outOf : Nat) :
    (Points.share part outOf).value = -25 * min 1 ((part : Rat) / outOf) := by
  rw [Points.value, lesser_rat]
  norm_num

/-- Whole points are worth what they say. -/
theorem Points.value_of_whole? {p : Points} {n : Int} (h : p.whole? = some n) :
    p.value = (n : Rat) := by
  cases p with
  | whole m =>
    obtain rfl : m = n := by simpa [Points.whole?] using h
    rfl
  | share part outOf => simp [Points.whole?] at h
  | computed x => simp [Points.whole?] at h

/-- The whole points in front are worth their sum. -/
theorem wholeFront_eq_sum (points : List Points) :
    (wholeFront points : Rat) =
      ((points.takeWhile (·.whole?.isSome)).map (Points.value (α := Rat))).sum := by
  rw [wholeFront, wholeSum_eq_sum]
  induction points with
  | nil => simp
  | cons p points ih =>
    cases h : p.whole? with
    | none => simp [h]
    | some n =>
      simp only [List.takeWhile_cons, h, Option.isSome_some, if_true, List.filterMap_cons,
        List.sum_cons, List.map_cons, Int.cast_add, ih, Points.value_of_whole? h]

/-- **Over the rationals the points of rules are a plain sum**, whichever of them are whole. -/
theorem pointSum_rat (points : List Points) :
    pointSum points = (points.map (Points.value (α := Rat))).sum := by
  have foldl_eq (rest : List Points) (total : Rat) :
      rest.foldl (fun total p => total + p.value) total =
        total + (rest.map (Points.value (α := Rat))).sum := by
    induction rest generalizing total with
    | nil => simp
    | cons p rest ih => rw [List.foldl_cons, ih, List.map_cons, List.sum_cons, add_assoc]
  -- Whole points in front are summed apart, which makes no difference to exact numbers.
  calc
    pointSum points
        = (wholeFront points : Rat) + ((brokenRest points).map (Points.value (α := Rat))).sum :=
          foldl_eq _ _
    _ = (points.map (Points.value (α := Rat))).sum := by
          rw [wholeFront_eq_sum, brokenRest, ← List.sum_append, ← List.map_append,
            List.takeWhile_append_dropWhile]

end SuiteAudit
