import Mathlib.Algebra.Order.Field.Power
import Mathlib.Tactic.Linarith
import Mathlib.Tactic.NormNum
import Mathlib.Tactic.Ring
import SuiteAudit.Decimal.Rounded

/-!
# Quotients near a double

The leading binary digit of a quotient tells how large it is (`binaryExponent_mem`), and so how many
units of a double it may take (`unitCount_le`). A quotient of at most `2 ^ 1022` is therefore near a
finite double (`quotientFits_of_le`). A whole number is near one exactly if it is less than half a
unit beyond the greatest double (`quotientFits_whole_iff`).
-/

namespace SuiteAudit.Decimal

/-! ### Powers of two -/

theorem twoPow_pos (n : Nat) : 0 < twoPow n :=
  Nat.two_pow_pos n

theorem twoPow_le {m n : Nat} (h : m ≤ n) : twoPow m ≤ twoPow n :=
  Nat.pow_le_pow_right Nat.two_pos h

/-- A power of two with any exponent is a quotient of whole ones. -/
theorem two_zpow_eq_div (e : Int) : (2 : Rat) ^ e = twoPow e.toNat / twoPow (-e).toNat := by
  rw [twoPow, twoPow, Nat.pow_eq, Nat.pow_eq, Nat.cast_pow, Nat.cast_pow, Nat.cast_ofNat]
  obtain ⟨n, rfl | rfl⟩ := e.eq_nat_or_neg <;> simp

/-- A quotient is compared with a multiple of a power of two in whole numbers. -/
theorem scaled_le_iff {num den : Nat} (h : 0 < den) (c : Nat) (e : Int) :
    num * twoPow (-e).toNat ≤ c * (den * twoPow e.toNat) ↔ (num : Rat) / den ≤ c * 2 ^ e := by
  have below : (0 : Rat) < twoPow (-e).toNat := by exact_mod_cast twoPow_pos _
  have den_pos : (0 : Rat) < den := by exact_mod_cast h
  rw [two_zpow_eq_div, ← mul_div_assoc, div_le_div_iff₀ den_pos below, ← Nat.cast_le (α := Rat)]
  push_cast
  rw [mul_right_comm, mul_assoc (c : Rat)]

/-- A quotient is compared with a power of two in whole numbers. -/
theorem scaled_lt_iff (num : Nat) {den : Nat} (h : 0 < den) (e : Int) :
    num * twoPow (-e).toNat < den * twoPow e.toNat ↔ (num : Rat) / den < 2 ^ e := by
  have below : (0 : Rat) < twoPow (-e).toNat := by exact_mod_cast twoPow_pos _
  have den_pos : (0 : Rat) < den := by exact_mod_cast h
  rw [two_zpow_eq_div, div_lt_div_iff₀ den_pos below, ← Nat.cast_lt (α := Rat)]
  push_cast
  rw [mul_comm (den : Rat)]

theorem two_zpow_natCast (n : Nat) : (2 : Rat) ^ (n : Int) = twoPow n := by
  rw [zpow_natCast, twoPow, Nat.pow_eq, Nat.cast_pow, Nat.cast_ofNat]

theorem two_zpow_pos (e : Int) : (0 : Rat) < 2 ^ e :=
  zpow_pos (by norm_num) e

theorem two_zpow_le {d e : Int} (h : d ≤ e) : (2 : Rat) ^ d ≤ 2 ^ e :=
  zpow_le_zpow_right₀ (by norm_num) h

/-! ### The leading digit -/

/-- A positive number lies between two powers of two, by its leading digit. -/
theorem log2_mem {n : Nat} (h : 0 < n) :
    (2 : Rat) ^ (n.log2 : Int) ≤ n ∧ (n : Rat) < 2 ^ ((n.log2 : Int) + 1) := by
  have low : 2 ^ n.log2 ≤ n := Nat.log2_self_le h.ne'
  have high : n < 2 ^ (n.log2 + 1) := Nat.lt_log2_self
  exact ⟨by exact_mod_cast low, by exact_mod_cast high⟩

/-- **A quotient lies between two powers of two**, by its leading digit. -/
theorem binaryExponent_mem {num den : Nat} (hNum : 0 < num) (hDen : 0 < den) :
    (2 : Rat) ^ binaryExponent num den ≤ num / den ∧
      (num : Rat) / den < 2 ^ (binaryExponent num den + 1) := by
  obtain ⟨num_low, num_high⟩ := log2_mem hNum
  obtain ⟨den_low, den_high⟩ := log2_mem hDen
  have den_pos : (0 : Rat) < den := by exact_mod_cast hDen
  set a := (num.log2 : Int)
  set b := (den.log2 : Int)
  -- By the leading digits alone the quotient is known up to a factor of two on each side.
  have low : (2 : Rat) ^ (a - b - 1) ≤ num / den := by
    rw [le_div_iff₀ den_pos]
    calc
      (2 : Rat) ^ (a - b - 1) * den ≤ 2 ^ (a - b - 1) * 2 ^ (b + 1) :=
        mul_le_mul_of_nonneg_left den_high.le (two_zpow_pos _).le
      _ = 2 ^ a := by rw [← zpow_add₀ two_ne_zero]; congr 1; ring
      _ ≤ num := num_low
  have high : (num : Rat) / den < 2 ^ (a - b + 1) := by
    rw [div_lt_iff₀ den_pos]
    calc
      (num : Rat) < 2 ^ (a + 1) := num_high
      _ = 2 ^ (a - b + 1) * 2 ^ b := by rw [← zpow_add₀ two_ne_zero]; congr 1; ring
      _ ≤ 2 ^ (a - b + 1) * den := mul_le_mul_of_nonneg_left den_low (two_zpow_pos _).le
  have compared := scaled_lt_iff num hDen (a - b)
  unfold binaryExponent
  dsimp only
  rw [Int.ofNat_eq_natCast, Int.ofNat_eq_natCast]
  split
  · next h => exact ⟨low, by rw [sub_add_cancel]; exact compared.mp h⟩
  · next h => exact ⟨not_lt.mp (fun lt => h (compared.mpr lt)), high⟩

theorem binaryExponent_le {num den : Nat} (hNum : 0 < num) (hDen : 0 < den) {j : Int}
    (h : (num : Rat) / den < 2 ^ (j + 1)) : binaryExponent num den ≤ j := by
  have := (binaryExponent_mem hNum hDen).1.trans_lt h
  have := (zpow_lt_zpow_iff_right₀ (by norm_num : (1 : Rat) < 2)).mp this
  omega

theorem le_binaryExponent {num den : Nat} (hNum : 0 < num) (hDen : 0 < den) {j : Int}
    (h : (2 : Rat) ^ j ≤ num / den) : j ≤ binaryExponent num den := by
  have := h.trans_lt (binaryExponent_mem hNum hDen).2
  have := (zpow_lt_zpow_iff_right₀ (by norm_num : (1 : Rat) < 2)).mp this
  omega

/-! ### Units -/

/-- Rounding a fraction to a whole number does not pass a whole number. -/
theorem roundHalfEven_le {num den c : Nat} (hDen : 0 < den) (h : num ≤ c * den) :
    roundHalfEven num den ≤ c := by
  have near : 2 * (roundHalfEven num den * den) ≤ 2 * num + den := (roundHalfEven_near hDen).2
  by_contra passed
  have : (c + 1) * den ≤ roundHalfEven num den * den := Nat.mul_le_mul_right den (by omega)
  rw [Nat.add_mul, Nat.one_mul] at this
  omega

/-- The part of a fraction before the point is not rounded away. -/
theorem div_le_roundHalfEven (num den : Nat) : num / den ≤ roundHalfEven num den := by
  unfold roundHalfEven
  dsimp only
  split <;> omega

/-- A fraction above an odd whole number is rounded down exactly if it is less than a half above. -/
theorem roundHalfEven_le_iff {num den c : Nat} (odd : c % 2 = 1) (low : c * den ≤ num)
    (high : num < (c + 1) * den) : roundHalfEven num den ≤ c ↔ 2 * num < (2 * c + 1) * den := by
  have floor_eq : num / den = c := Nat.div_eq_of_lt_le low high
  have rest_eq := Nat.div_add_mod num den
  rw [floor_eq, Nat.mul_comm] at rest_eq
  have double : (2 * c + 1) * den = 2 * (c * den) + den := by ring
  unfold roundHalfEven
  simp only [floor_eq, odd, double]
  split
  · next h =>
    simp only [Bool.or_eq_true, decide_eq_true_eq, Bool.and_eq_true, beq_iff_eq] at h
    omega
  · next h =>
    simp only [Bool.or_eq_true, decide_eq_true_eq, Bool.and_eq_true, beq_iff_eq] at h
    omega

/-- A quotient takes no more units than a multiple of the unit that it does not exceed. -/
theorem unitCount_le_of_le {num den c : Nat} (hDen : 0 < den)
    (h : (num : Rat) / den ≤ c * 2 ^ unitExponent num den) : unitCount num den ≤ c := by
  apply roundHalfEven_le (Nat.mul_pos hDen (twoPow_pos _))
  exact (scaled_le_iff hDen c _).mpr h

/-- **A quotient takes at most `2 ^ 53` units.** -/
theorem unitCount_le {num den : Nat} (hNum : 0 < num) (hDen : 0 < den) :
    unitCount num den ≤ twoPow 53 := by
  apply unitCount_le_of_le hDen
  calc
    (num : Rat) / den ≤ 2 ^ (binaryExponent num den + 1) := (binaryExponent_mem hNum hDen).2.le
    _ ≤ 2 ^ (53 + unitExponent num den) := two_zpow_le (by unfold unitExponent; omega)
    _ = twoPow 53 * 2 ^ unitExponent num den := by
      rw [zpow_add₀ two_ne_zero]
      norm_num [twoPow]

/-- **The bits of the double near a quotient that is not above `2 ^ j`.** -/
theorem nearestBits_le {num den j : Nat} (hDen : 0 < den) (h : num ≤ 2 ^ j * den) :
    nearestBits num den ≤ (j + 1024) * twoPow 52 := by
  unfold nearestBits
  split
  · exact Nat.zero_le _
  · next hZero =>
    have hNum : 0 < num := Nat.pos_of_ne_zero fun h => hZero (by simp [h])
    have count := unitCount_le hNum hDen
    have small : (num : Rat) / den < 2 ^ ((j : Int) + 1) := by
      rw [div_lt_iff₀ (by exact_mod_cast hDen)]
      have : num < 2 ^ (j + 1) * den := by
        rw [Nat.pow_succ]
        nlinarith [Nat.two_pow_pos j]
      exact_mod_cast this
    have exponent := binaryExponent_le hNum hDen small
    have unit : (unitExponent num den + 1074).toNat ≤ j + 1022 := by
      unfold unitExponent
      omega
    calc
      (unitExponent num den + 1074).toNat * twoPow 52 + unitCount num den
          ≤ (j + 1022) * twoPow 52 + 2 * twoPow 52 :=
            Nat.add_le_add (Nat.mul_le_mul_right _ unit) (count.trans (by decide))
      _ = (j + 1024) * twoPow 52 := by ring

/-- **A quotient of at most `2 ^ 1022` is near a finite double.** -/
theorem quotientFits_of_le {num den : Int} (hDen : 0 < den) (hNum : num.natAbs ≤ 2 ^ 1022 * den) :
    quotientFits num den = true := by
  have bits_le : nearestBits num.natAbs den.natAbs ≤ (1022 + 1024) * twoPow 52 :=
    nearestBits_le (Int.natAbs_pos.mpr hDen.ne') (by omega)
  rw [quotientFits, decide_eq_true_iff]
  exact bits_le.trans_lt (by decide)

/-- The greatest whole number that is a double. -/
def largestWhole : Nat :=
  (twoPow 53 - 1) * twoPow 971

/-- The greatest double has far more digits than a machine word. -/
theorem le_largestWhole {n : Nat} (h : n ≤ 2 ^ 64) : n ≤ largestWhole := by
  calc
    n ≤ 1 * twoPow 971 := by
      rw [Nat.one_mul]
      exact h.trans (twoPow_le (show 64 ≤ 971 by decide))
    _ ≤ (twoPow 53 - 1) * twoPow 971 := Nat.mul_le_mul_right _ (by decide)

/-- **Every whole number up to the greatest double is near a finite one.** -/
theorem quotientFits_of_le_largest {n : Int} (h : n.natAbs ≤ largestWhole) :
    quotientFits n 1 = true := by
  rcases Nat.eq_zero_or_pos n.natAbs with hZero | hPos
  · rw [quotientFits, hZero]
    decide
  · have as_rat : (n.natAbs : Rat) / (1 : Nat) ≤ (twoPow 53 - 1 : Nat) * 2 ^ (971 : Int) := by
      rw [Nat.cast_one, div_one]
      calc
        (n.natAbs : Rat) ≤ largestWhole := by exact_mod_cast h
        _ = (twoPow 53 - 1 : Nat) * 2 ^ (971 : Int) := by
          rw [largestWhole, Nat.cast_mul]
          exact congrArg _ (two_zpow_natCast 971).symm
    have below : ((twoPow 53 - 1 : Nat) : Rat) * 2 ^ (971 : Int) < 2 ^ ((1023 : Int) + 1) := by
      rw [show (1023 : Int) + 1 = 53 + 971 from rfl, zpow_add₀ two_ne_zero]
      exact mul_lt_mul_of_pos_right (by norm_num [twoPow]) (two_zpow_pos _)
    have digit := binaryExponent_le hPos Nat.one_pos (as_rat.trans_lt below)
    have unit : unitExponent n.natAbs 1 ≤ 971 := by
      unfold unitExponent
      omega
    have count := unitCount_le hPos Nat.one_pos
    have bits : nearestBits n.natAbs 1 =
        (unitExponent n.natAbs 1 + 1074).toNat * twoPow 52 + unitCount n.natAbs 1 := by
      rw [nearestBits, if_neg (by simpa using hPos.ne')]
    rw [quotientFits, decide_eq_true_iff, Int.natAbs_one, bits]
    rcases unit.lt_or_eq with lower | greatest
    · have unit : (unitExponent n.natAbs 1 + 1074).toNat ≤ 2044 := by omega
      calc
        (unitExponent n.natAbs 1 + 1074).toNat * twoPow 52 + unitCount n.natAbs 1
            ≤ 2044 * twoPow 52 + twoPow 53 :=
              Nat.add_le_add (Nat.mul_le_mul_right _ unit) count
        _ < infiniteBits := by decide
    · -- In the greatest unit the count is bounded by that of the greatest double.
      have count : unitCount n.natAbs 1 ≤ twoPow 53 - 1 :=
        unitCount_le_of_le Nat.one_pos (by rw [greatest]; exact as_rat)
      rw [greatest]
      exact (Nat.add_le_add_left count _).trans_lt (by decide)

/-- The bits near a whole number, by the exponent of its unit. -/
theorem nearestBits_whole {n e : Nat} (low : twoPow (52 + e) ≤ n) (high : n < twoPow (53 + e)) :
    nearestBits n 1 = (e + 1074) * twoPow 52 + roundHalfEven n (twoPow e) := by
  have pos : 0 < n := (twoPow_pos _).trans_le low
  have exponent : binaryExponent n 1 = 52 + e := by
    apply le_antisymm
    · apply binaryExponent_le pos Nat.one_pos
      rw [Nat.cast_one, div_one, show (52 + e : Int) + 1 = (53 + e : Nat) by omega,
        two_zpow_natCast]
      exact_mod_cast high
    · apply le_binaryExponent pos Nat.one_pos
      rw [Nat.cast_one, div_one, show (52 + e : Int) = (52 + e : Nat) by omega, two_zpow_natCast]
      exact_mod_cast low
  have unit : unitExponent n 1 = e := by
    unfold unitExponent
    omega
  have shifted : (unitExponent n 1 + 1074).toNat = e + 1074 := by omega
  have negated : (-unitExponent n 1).toNat = 0 := by omega
  rw [nearestBits, if_neg (by simpa using pos.ne'), shifted, unitCount]
  simp only [unit, Int.toNat_natCast, Nat.one_mul]
  rw [← unit, negated, show twoPow 0 = 1 from rfl, Nat.mul_one]

/-- From the power of two behind the greatest double on the bits are those of infinity or more. -/
theorem infiniteBits_le_nearestBits {n : Nat} (h : twoPow 1024 ≤ n) :
    infiniteBits ≤ nearestBits n 1 := by
  have pos : n ≠ 0 := ((twoPow_pos 1024).trans_le h).ne'
  have leading : 1024 ≤ n.log2 := by
    by_contra hSmall
    have : n < twoPow (n.log2 + 1) := Nat.lt_log2_self
    have := twoPow_le (show n.log2 + 1 ≤ 1024 by omega)
    omega
  obtain ⟨e, hExponent⟩ : ∃ e, n.log2 = 52 + e := Nat.exists_eq_add_of_le (by omega)
  have low : twoPow (52 + e) ≤ n := hExponent ▸ Nat.log2_self_le pos
  have high : n < twoPow (53 + e) := by
    rw [show 53 + e = n.log2 + 1 by omega]
    exact Nat.lt_log2_self
  have whole : twoPow 52 ≤ n / twoPow e := by
    rw [Nat.le_div_iff_mul_le (twoPow_pos e)]
    exact (Nat.pow_add 2 52 e).symm.trans_le low
  rw [nearestBits_whole low high]
  calc
    infiniteBits = (972 + 1074) * twoPow 52 + twoPow 52 := by decide
    _ ≤ (e + 1074) * twoPow 52 + roundHalfEven n (twoPow e) :=
      Nat.add_le_add (Nat.mul_le_mul_right _ (by omega))
        (whole.trans (div_le_roundHalfEven n (twoPow e)))

/-- **A whole number has no finite double near it** from half a unit beyond the greatest on. -/
theorem quotientFits_whole_iff {n : Int} :
    quotientFits n 1 = true ↔ n.natAbs < 2 ^ 1024 - 2 ^ 970 := by
  have greatest : largestWhole < 2 ^ 1024 - 2 ^ 970 := by decide +kernel
  rcases Nat.lt_or_ge largestWhole n.natAbs with large | small
  · rw [quotientFits, decide_eq_true_iff, Int.natAbs_one]
    generalize n.natAbs = m at large
    rcases Nat.lt_or_ge m (twoPow (53 + 971)) with below | above
    · -- Between the greatest double and the next power of two the rest decides.
      have leading : twoPow (52 + 971) ≤ largestWhole := by decide +kernel
      have next_eq : (twoPow 53 - 1 + 1) * twoPow 971 = twoPow (53 + 971) := by decide +kernel
      have middle_eq : (2 * (twoPow 53 - 1) + 1) * twoPow 971 = 2 * (2 ^ 1024 - 2 ^ 970) := by
        decide +kernel
      have rounded : roundHalfEven m (twoPow 971) ≤ twoPow 53 - 1 ↔ 2 * m < _ :=
        roundHalfEven_le_iff (by decide) (Nat.le_of_lt large) (below.trans_eq next_eq.symm)
      rw [middle_eq, Nat.mul_lt_mul_left Nat.two_pos] at rounded
      rw [nearestBits_whole (leading.trans (Nat.le_of_lt large)) below, ← rounded]
      have infinite : infiniteBits = (971 + 1074) * twoPow 52 + twoPow 53 := by decide
      have := twoPow_pos 53
      omega
    · have beyond : 2 ^ 1024 - 2 ^ 970 ≤ m := le_trans (by decide +kernel) above
      exact iff_of_false (Nat.not_lt.mpr (infiniteBits_le_nearestBits above))
        (Nat.not_lt.mpr beyond)
  · exact iff_of_true (quotientFits_of_le_largest small) (Nat.lt_of_le_of_lt small greatest)

end SuiteAudit.Decimal
