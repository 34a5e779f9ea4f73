import Mathlib.Data.List.TakeWhile
import Mathlib.Tactic.Positivity
import SuiteAudit.Decimal.Shortest
import SuiteAudit.Proofs.Quotients

/-!
# The shortest decimal of a double

A decimal is tried against the interval of the reals that round to the double (`holds_iff`).
Seventeen digits always suffice (`ten_zpow_lt_width`), so the decimal that is found lies in the
interval (`contains_shortest`). The intervals of different doubles have no number in common
(`eq_of_contains`), so a double is known by its shortest decimal.
-/

namespace SuiteAudit.Decimal

/-! ### Powers of ten -/

theorem tenPow_pos (n : Nat) : 0 < tenPow n :=
  Nat.pow_pos (by norm_num)

/-- A power of ten with any exponent is a quotient of whole ones. -/
theorem ten_zpow_eq_div (e : Int) : (10 : Rat) ^ e = tenPow e.toNat / tenPow (-e).toNat := by
  rw [tenPow, tenPow, Nat.pow_eq, Nat.pow_eq, Nat.cast_pow, Nat.cast_pow, Nat.cast_ofNat]
  obtain ⟨n, rfl | rfl⟩ := e.eq_nat_or_neg <;> simp

theorem ten_zpow_pos (e : Int) : (0 : Rat) < 10 ^ e :=
  zpow_pos (by norm_num) e

/-! ### The interval of a double -/

namespace Neighbourhood

variable (r : Neighbourhood)

/-- The unit of a neighbourhood, a quarter of the gap above the double. -/
def unit : Rat :=
  r.unitNum / r.unitDen

/-- The lower end of the interval. -/
def low : Rat :=
  (r.centre - r.below : Nat) * r.unit

/-- The upper end of the interval. -/
def high : Rat :=
  (r.centre + 2 : Nat) * r.unit

/-- **Whether a number rounds to the double.** -/
def Contains (q : Rat) : Prop :=
  r.low ≤ q ∧ q ≤ r.high ∧ (r.closed = false → r.low < q ∧ q < r.high)

variable {r}

theorem contains_of_lt {q : Rat} (hLow : r.low < q) (hHigh : q < r.high) : r.Contains q :=
  ⟨hLow.le, hHigh.le, fun _ => ⟨hLow, hHigh⟩⟩

/-- A number of units is compared with a decimal in whole numbers. -/
theorem units_le_iff (pos : 0 < r.unitDen) (a k : Nat) (e : Int) :
    a * (tenPow (-e).toNat * r.unitNum) ≤ k * tenPow e.toNat * r.unitDen ↔
      a * r.unit ≤ k * 10 ^ e := by
  have below : (0 : Rat) < tenPow (-e).toNat := by exact_mod_cast tenPow_pos _
  have den : (0 : Rat) < r.unitDen := by exact_mod_cast pos
  rw [unit, ten_zpow_eq_div, ← mul_div_assoc, ← mul_div_assoc, div_le_div_iff₀ den below,
    ← Nat.cast_le (α := Rat)]
  push_cast
  rw [mul_right_comm (a : Rat), mul_assoc (a : Rat)]

/-- A decimal is compared with a number of units in whole numbers. -/
theorem le_units_iff (pos : 0 < r.unitDen) (a k : Nat) (e : Int) :
    k * tenPow e.toNat * r.unitDen ≤ a * (tenPow (-e).toNat * r.unitNum) ↔
      k * 10 ^ e ≤ a * r.unit := by
  have below : (0 : Rat) < tenPow (-e).toNat := by exact_mod_cast tenPow_pos _
  have den : (0 : Rat) < r.unitDen := by exact_mod_cast pos
  rw [unit, ten_zpow_eq_div, ← mul_div_assoc, ← mul_div_assoc, div_le_div_iff₀ below den,
    ← Nat.cast_le (α := Rat)]
  push_cast
  rw [mul_right_comm (a : Rat), mul_assoc (a : Rat)]

/-- **A decimal is tried against the interval.** -/
theorem holds_iff (pos : 0 < r.unitDen) (k : Nat) (e : Int) :
    r.holds k e = true ↔ r.Contains (k * 10 ^ e) := by
  have low_le := units_le_iff pos (r.centre - r.below) k e
  have high_le := units_le_iff pos (r.centre + 2) k e
  have le_low := le_units_iff pos (r.centre - r.below) k e
  have le_high := le_units_iff pos (r.centre + 2) k e
  unfold holds Contains low high
  dsimp only
  cases r.closed with
  | true => simp [low_le, le_high]
  | false =>
    simp only [Bool.false_eq_true, if_false, Bool.and_eq_true, decide_eq_true_eq, true_implies,
      ← not_le, le_low, high_le]
    rw [not_le, not_le]
    constructor
    · exact fun h => ⟨h.1.le, h.2.le, h⟩
    · exact fun h => h.2.2

/-- The double lies between two neighbours on a grid. -/
theorem floorOn_mem (pos : 0 < r.unitDen) (e : Int) :
    r.floorOn e * 10 ^ e ≤ r.centre * r.unit ∧
      r.centre * r.unit < (r.floorOn e + 1 : Nat) * 10 ^ e := by
  have step : 0 < tenPow e.toNat * r.unitDen := Nat.mul_pos (tenPow_pos _) pos
  rw [← le_units_iff pos, ← not_le, ← le_units_iff pos, not_le, Nat.mul_assoc, Nat.mul_assoc]
  refine ⟨Nat.div_mul_le_self _ _, ?_⟩
  rw [Nat.add_mul, Nat.one_mul]
  exact Nat.lt_div_mul_add step

/-- What is found on a grid rounds to the double. -/
theorem contains_of_onGrid? (pos : 0 < r.unitDen) {e : Int} {k : Nat} (h : r.onGrid? e = some k) :
    r.Contains (k * 10 ^ e) := by
  rw [← holds_iff pos]
  unfold onGrid? at h
  dsimp only at h
  split at h
  · split at h <;> obtain rfl := Option.some.inj h <;> assumption
  · obtain rfl := Option.some.inj h
    assumption
  · obtain rfl := Option.some.inj h
    assumption
  · cases h

/-- **A grid that is finer than the interval has a point in it.** -/
theorem isSome_onGrid? (pos : 0 < r.unitDen) (hUnit : 0 < r.unit) {e : Int}
    (fine : (10 : Rat) ^ e < r.high - r.low) : (r.onGrid? e).isSome := by
  obtain ⟨floor_le, lt_next⟩ := floorOn_mem pos e
  have low_le : r.low ≤ r.centre * r.unit := by
    unfold low
    gcongr
    exact Nat.sub_le _ _
  have lt_high : r.centre * r.unit < r.high := by
    unfold high
    gcongr
    omega
  have found : r.holds (r.floorOn e) e = true ∨ r.holds (r.floorOn e + 1) e = true := by
    rw [holds_iff pos, holds_iff pos]
    have next : ((r.floorOn e + 1 : Nat) : Rat) * 10 ^ e = r.floorOn e * 10 ^ e + 10 ^ e := by
      push_cast
      ring
    rw [next] at lt_next ⊢
    rcases le_or_gt (r.floorOn e * (10 : Rat) ^ e) r.low with below | above
    · exact .inr (contains_of_lt (by linarith) (by linarith))
    · exact .inl (contains_of_lt above (by linarith))
  unfold onGrid?
  dsimp only
  split
  · split <;> rfl
  · rfl
  · rfl
  · next hFloor hNext =>
    rw [hFloor, hNext] at found
    simp at found

end Neighbourhood

/-! ### The search -/

/-- The number that decimal digits stand for. -/
def digitsValue (digits : List Char) : Nat :=
  Nat.ofDigitChars 10 digits 0

/-- **The number that a decimal stands for.** -/
def Scientific.value (s : Scientific) : Rat :=
  digitsValue s.digits * 10 ^ (s.exponent + 1 - s.digits.length)

theorem digitsValue_toDigits (n : Nat) : digitsValue (Nat.toDigits 10 n) = n :=
  Nat.ofDigitChars_toDigits (by norm_num) (by norm_num)

theorem digitsValue_append (front back : List Char) :
    digitsValue (front ++ back) = 10 ^ back.length * digitsValue front + digitsValue back := by
  rw [digitsValue, Nat.ofDigitChars_append, Nat.ofDigitChars_eq_ofDigitChars_zero]
  rfl

theorem digitsValue_zeros (n : Nat) : digitsValue (List.replicate n '0') = 0 := by
  induction n with
  | zero => rfl
  | succ n ih => rw [List.replicate_succ', digitsValue_append, ih]; rfl

/-- Digits are those that are left without the zeros at their end, and those zeros. -/
theorem exists_trailing_zeros (digits : List Char) :
    ∃ n, digits = (digits.reverse.dropWhile (· == '0')).reverse ++ List.replicate n '0' := by
  refine ⟨(digits.reverse.takeWhile (· == '0')).length, ?_⟩
  have zeros : digits.reverse.takeWhile (· == '0') =
      List.replicate (digits.reverse.takeWhile (· == '0')).length '0' :=
    List.eq_replicate_of_mem fun c hc => by simpa using List.mem_takeWhile_imp hc
  rw [← List.reverse_replicate, ← zeros, ← List.reverse_append, List.takeWhile_append_dropWhile,
    List.reverse_reverse]

/-- **Zeros at the end of the digits do not count.** -/
theorem value_ofGrid (k : Nat) (e : Int) : (Scientific.ofGrid k e).value = k * 10 ^ e := by
  have whole := digitsValue_toDigits k
  obtain ⟨n, hDigits⟩ := exists_trailing_zeros (Nat.toDigits 10 k)
  unfold Scientific.ofGrid Scientific.value
  dsimp only
  set digits := Nat.toDigits 10 k
  set trimmed := (digits.reverse.dropWhile (· == '0')).reverse
  rw [hDigits, digitsValue_append, digitsValue_zeros, List.length_replicate, Nat.add_zero] at whole
  cases hEmpty : trimmed with
  | nil =>
    rw [hEmpty] at whole
    have zero : k = 0 := by
      rw [← whole]
      rfl
    simp [zero, digitsValue, Nat.ofDigitChars]
  | cons c cs =>
    rw [← hEmpty, if_neg (by simp [hEmpty]), hDigits, List.length_append, List.length_replicate,
      ← whole]
    push_cast
    rw [mul_comm ((10 : Rat) ^ n), mul_assoc, ← zpow_natCast, ← zpow_add₀ (by norm_num)]
    congr 2
    rw [Int.ofNat_eq_natCast]
    push_cast
    ring

/-- **The search ends in the interval** if the finest grid that it tries is finer than the
interval. -/
theorem contains_shortestFrom {r : Neighbourhood} (pos : 0 < r.unitDen) (hUnit : 0 < r.unit)
    (leading : Int) (count tries : Nat) (some_try : 0 < tries)
    (fine : (10 : Rat) ^ (leading + 2 - count - tries) < r.high - r.low) :
    r.Contains (shortestFrom r leading count tries).value := by
  induction tries generalizing count with
  | zero => exact absurd some_try (Nat.lt_irrefl 0)
  | succ tries ih =>
    unfold shortestFrom
    dsimp only
    cases hGrid : r.onGrid? (leading - Int.ofNat count + 1) with
    | some k =>
      dsimp only
      rw [value_ofGrid]
      exact Neighbourhood.contains_of_onGrid? pos hGrid
    | none =>
      rcases Nat.eq_zero_or_pos tries with rfl | more
      · -- The last grid is the finest, and cannot miss.
        have found := Neighbourhood.isSome_onGrid? pos hUnit (e := leading - Int.ofNat count + 1)
          (by convert fine using 2; rw [Int.ofNat_eq_natCast]; push_cast; ring)
        rw [hGrid] at found
        cases found
      · apply ih (count + 1) more
        convert fine using 2
        push_cast
        ring

/-- A positive number lies between two powers of ten, by the count of its digits. -/
theorem digitCount_mem {n : Nat} (h : 0 < n) :
    (10 : Rat) ^ ((digitCount n : Int) - 1) ≤ n ∧ (n : Rat) < 10 ^ (digitCount n : Int) := by
  obtain ⟨d, hCount⟩ : ∃ d, digitCount n = d + 1 :=
    Nat.exists_eq_succ_of_ne_zero (Nat.length_toDigits_pos).ne'
  have digits_le_iff (k : Nat) (hk : 0 < k) : digitCount n ≤ k ↔ n < 10 ^ k :=
    Nat.length_toDigits_le_iff (by norm_num) hk
  have high : n < 10 ^ (d + 1) := (digits_le_iff (d + 1) d.succ_pos).mp hCount.le
  have low : 10 ^ d ≤ n := by
    rcases Nat.eq_zero_or_pos d with rfl | hd
    · exact h
    · exact not_lt.mp fun lt => by
        have := (digits_le_iff d hd).mpr lt
        omega
  rw [hCount, Nat.cast_succ, add_sub_cancel_right]
  exact ⟨by exact_mod_cast low, by exact_mod_cast high⟩

/-- A quotient is compared with a power of ten in whole numbers. -/
theorem scaled_lt_ten_iff (num : Nat) {den : Nat} (h : 0 < den) (e : Int) :
    num * tenPow (-e).toNat < den * tenPow e.toNat ↔ (num : Rat) / den < 10 ^ e := by
  have below : (0 : Rat) < tenPow (-e).toNat := by exact_mod_cast tenPow_pos _
  have den_pos : (0 : Rat) < den := by exact_mod_cast h
  rw [ten_zpow_eq_div, div_lt_div_iff₀ den_pos below, ← Nat.cast_lt (α := Rat)]
  push_cast
  rw [mul_comm (den : Rat)]

/-- **A quotient is no less than the power of ten of its leading digit.** -/
theorem ten_zpow_leadingExponent_le {num den : Nat} (hNum : 0 < num) (hDen : 0 < den) :
    (10 : Rat) ^ leadingExponent num den ≤ num / den := by
  obtain ⟨num_low, -⟩ := digitCount_mem hNum
  obtain ⟨-, den_high⟩ := digitCount_mem hDen
  have den_pos : (0 : Rat) < den := by exact_mod_cast hDen
  have compared := scaled_lt_ten_iff num hDen (digitCount num - digitCount den : Int)
  unfold leadingExponent
  dsimp only
  rw [Int.ofNat_eq_natCast, Int.ofNat_eq_natCast]
  split
  · rw [le_div_iff₀ den_pos]
    calc
      (10 : Rat) ^ ((digitCount num : Int) - digitCount den - 1) * den
        ≤ 10 ^ ((digitCount num : Int) - digitCount den - 1) * 10 ^ (digitCount den : Int) :=
          mul_le_mul_of_nonneg_left den_high.le (ten_zpow_pos _).le
      _ = 10 ^ ((digitCount num : Int) - 1) := by
          rw [← zpow_add₀ (by norm_num)]
          congr 1
          ring
      _ ≤ num := num_low
  · next h => exact not_lt.mp fun lt => h (compared.mpr lt)

/-! ### Finite doubles -/

namespace Binary64

/-- **What the parts of a double satisfy**: a mantissa of at most 53 digits, and of no less unless
the exponent is the least. -/
structure Canonical (b : Binary64) : Prop where
  mantissa_lt : b.mantissa < 2 ^ 53
  le_exponent : -1074 ≤ b.exponent
  full : b.exponent ≠ -1074 → 2 ^ 52 ≤ b.mantissa

/-- The magnitude of a finite double. -/
def magnitude (b : Binary64) : Rat :=
  b.mantissa * 2 ^ b.exponent

theorem fraction_eq (b : Binary64) : (b.fraction.1 : Rat) / b.fraction.2 = b.magnitude := by
  unfold fraction magnitude
  cases b.exponent with
  | ofNat e =>
    dsimp only
    rw [Nat.cast_mul, Nat.cast_one, div_one, Int.ofNat_eq_natCast, two_zpow_natCast]
  | negSucc e =>
    dsimp only
    rw [Int.negSucc_eq, zpow_neg, ← Nat.cast_succ, two_zpow_natCast, div_eq_mul_inv]

theorem fraction_fst_pos {b : Binary64} (h : 0 < b.mantissa) : 0 < b.fraction.1 := by
  unfold fraction
  cases b.exponent with
  | ofNat e => exact Nat.mul_pos h (twoPow_pos e)
  | negSucc e => exact h

/-- How far below four times the mantissa the interval of a double begins. -/
def below (b : Binary64) : Nat :=
  if b.mantissa = 2 ^ 52 ∧ b.exponent ≠ -1074 then 1 else 2

end Binary64

namespace Neighbourhood

variable (b : Binary64)

theorem unitDen_ofBinary64_pos : 0 < (ofBinary64 b).unitDen :=
  twoPow_pos _

theorem unit_ofBinary64 : (ofBinary64 b).unit = 2 ^ (b.exponent - 2) :=
  (two_zpow_eq_div _).symm

theorem low_ofBinary64 :
    (ofBinary64 b).low = (4 * b.mantissa - b.below : Nat) * 2 ^ (b.exponent - 2) := by
  rw [low, unit_ofBinary64]
  congr 3
  unfold ofBinary64 Binary64.below twoPow
  simp

theorem high_ofBinary64 :
    (ofBinary64 b).high = (4 * b.mantissa + 2 : Nat) * 2 ^ (b.exponent - 2) := by
  rw [high, unit_ofBinary64]
  rfl

variable {b}

/-- The interval of a double that is not zero begins above zero. -/
theorem low_eq (h : 0 < b.mantissa) :
    (ofBinary64 b).low = (4 * b.mantissa - b.below) * 2 ^ (b.exponent - 2) := by
  have : b.below ≤ 4 * b.mantissa := by
    unfold Binary64.below
    split <;> omega
  rw [low_ofBinary64, Nat.cast_sub this]
  push_cast
  rfl

end Neighbourhood

/-- **Seventeen digits suffice**: their grid is finer than the interval of a double. -/
theorem ten_zpow_lt_width {b : Binary64} (canonical : b.Canonical) (h : 0 < b.mantissa)
    {leading : Int} (hLeading : (10 : Rat) ^ leading ≤ b.magnitude) :
    (10 : Rat) ^ (leading - 16) <
      (Neighbourhood.ofBinary64 b).high - (Neighbourhood.ofBinary64 b).low := by
  have step_le :
      (10 : Rat) ^ (leading - 16) * 10 ^ 16 ≤ b.mantissa * (4 * 2 ^ (b.exponent - 2)) := by
    calc
      (10 : Rat) ^ (leading - 16) * 10 ^ 16 = 10 ^ leading := by
        rw [zpow_sub₀ (by norm_num)]
        norm_num
      _ ≤ b.mantissa * 2 ^ b.exponent := hLeading
      _ = b.mantissa * (4 * 2 ^ (b.exponent - 2)) := by
        rw [zpow_sub₀ two_ne_zero, show (2 : Rat) ^ (2 : Int) = 4 by norm_num]
        ring
  -- A mantissa is small against ten to the sixteenth, and twice as small where the interval is
  -- narrow.
  have small : 4 * b.mantissa < (2 + b.below) * 10 ^ 16 := by
    have := canonical.mantissa_lt
    unfold Binary64.below
    split <;> omega
  have small : 4 * (b.mantissa : Rat) < (2 + b.below) * 10 ^ 16 := by exact_mod_cast small
  have unit_pos := two_zpow_pos (b.exponent - 2)
  rw [Neighbourhood.low_eq h, Neighbourhood.high_ofBinary64]
  push_cast
  nlinarith

/-- **The shortest decimal of a double lies in its interval.** -/
theorem contains_shortest {b : Binary64} (canonical : b.Canonical) (h : 0 < b.mantissa) :
    (Neighbourhood.ofBinary64 b).Contains (shortest b).value := by
  have hUnit : 0 < (Neighbourhood.ofBinary64 b).unit := by
    rw [Neighbourhood.unit_ofBinary64]
    exact two_zpow_pos _
  have leading := ten_zpow_leadingExponent_le (b.fraction_fst_pos h) b.fraction_snd_pos
  rw [b.fraction_eq] at leading
  have fine := ten_zpow_lt_width canonical h leading
  have smallest : leadingExponent b.fraction.1 b.fraction.2 - 16 =
      leadingExponent b.fraction.1 b.fraction.2 + 2 - (1 : Nat) - (17 : Nat) := by
    push_cast
    ring
  rw [smallest] at fine
  unfold shortest
  rw [if_neg (by simpa using h.ne')]
  exact contains_shortestFrom (Neighbourhood.unitDen_ofBinary64_pos b) hUnit _ 1 17 (by norm_num)
    fine

/-! ### Different doubles -/

/-- The interval of a double ends before that of a greater one begins, or they meet and one of them
does without the end. -/
theorem high_le_low {a b : Binary64} (ha : a.Canonical) (hb : b.Canonical) (hn : 0 < b.mantissa)
    (h : a.exponent < b.exponent ∨ a.exponent = b.exponent ∧ a.mantissa < b.mantissa) :
    (Neighbourhood.ofBinary64 a).high ≤ (Neighbourhood.ofBinary64 b).low ∧
      (a.mantissa % 2 = 0 → b.mantissa % 2 = 0 →
        (Neighbourhood.ofBinary64 a).high < (Neighbourhood.ofBinary64 b).low) := by
  rw [Neighbourhood.high_ofBinary64, Neighbourhood.low_ofBinary64]
  have unit_pos := two_zpow_pos (a.exponent - 2)
  rcases h with hExponent | ⟨hExponent, hMantissa⟩
  · -- The greater double is at least the next power of two.
    have full := hb.full (by have := ha.le_exponent; omega)
    have small := ha.mantissa_lt
    have units : 4 * a.mantissa + 2 ≤ (4 * b.mantissa - b.below) * 2 ∧
        (a.mantissa % 2 = 0 → 4 * a.mantissa + 2 < (4 * b.mantissa - b.below) * 2) := by
      have := ha.le_exponent
      unfold Binary64.below
      split <;> omega
    have double : 2 * (2 : Rat) ^ (a.exponent - 2) ≤ 2 ^ (b.exponent - 2) := by
      rw [← zpow_one_add₀ two_ne_zero]
      exact two_zpow_le (by omega)
    have scaled : ((4 * b.mantissa - b.below : Nat) * 2 : Rat) * 2 ^ (a.exponent - 2) ≤
        (4 * b.mantissa - b.below : Nat) * 2 ^ (b.exponent - 2) := by
      rw [mul_assoc]
      gcongr
    constructor
    · refine le_trans ?_ scaled
      gcongr
      exact_mod_cast units.1
    · intro even _
      refine lt_of_lt_of_le ?_ scaled
      gcongr
      exact_mod_cast units.2 even
  · have units : 4 * a.mantissa + 2 ≤ 4 * b.mantissa - b.below ∧
        (a.mantissa % 2 = 0 → b.mantissa % 2 = 0 →
          4 * a.mantissa + 2 < 4 * b.mantissa - b.below) := by
      unfold Binary64.below
      split <;> omega
    rw [← hExponent]
    constructor
    · gcongr
      exact units.1
    · intro even even_too
      gcongr
      exact units.2 even even_too

/-- **The interval of a double lies before that of a greater one.** -/
theorem lt_of_contains {a b : Binary64} (ha : a.Canonical) (hb : b.Canonical) (hn : 0 < b.mantissa)
    (h : a.exponent < b.exponent ∨ a.exponent = b.exponent ∧ a.mantissa < b.mantissa)
    {p q : Rat} (hp : (Neighbourhood.ofBinary64 a).Contains p)
    (hq : (Neighbourhood.ofBinary64 b).Contains q) : p < q := by
  obtain ⟨apart, strict⟩ := high_le_low ha hb hn h
  obtain ⟨-, p_le, p_open⟩ := hp
  obtain ⟨le_q, -, q_open⟩ := hq
  rcases Nat.mod_two_eq_zero_or_one a.mantissa with even | odd
  · rcases Nat.mod_two_eq_zero_or_one b.mantissa with even_too | odd
    · exact (p_le.trans_lt (strict even even_too)).trans_le le_q
    · exact (p_le.trans apart).trans_lt (q_open (by simp [Neighbourhood.ofBinary64, odd])).1
  · exact (p_open (by simp [Neighbourhood.ofBinary64, odd])).2.trans_le (apart.trans le_q)

/-- **A number rounds to one double only.** -/
theorem eq_of_contains {a b : Binary64} (ha : a.Canonical) (hb : b.Canonical) (hm : 0 < a.mantissa)
    (hn : 0 < b.mantissa) {q : Rat} (hp : (Neighbourhood.ofBinary64 a).Contains q)
    (hq : (Neighbourhood.ofBinary64 b).Contains q) :
    a.mantissa = b.mantissa ∧ a.exponent = b.exponent := by
  by_contra apart
  have ordered : (a.exponent < b.exponent ∨ a.exponent = b.exponent ∧ a.mantissa < b.mantissa) ∨
      (b.exponent < a.exponent ∨ b.exponent = a.exponent ∧ b.mantissa < a.mantissa) := by
    omega
  rcases ordered with less | more
  · exact lt_irrefl q (lt_of_contains ha hb hn less hp hq)
  · exact lt_irrefl q (lt_of_contains hb ha hm more hq hp)

/-- A number that rounds to a double other than zero is not zero. -/
theorem pos_of_contains {b : Binary64} (h : 0 < b.mantissa) {q : Rat}
    (hq : (Neighbourhood.ofBinary64 b).Contains q) : 0 < q := by
  refine lt_of_lt_of_le ?_ hq.1
  rw [Neighbourhood.low_ofBinary64]
  have : 0 < 4 * b.mantissa - b.below := by
    unfold Binary64.below
    split <;> omega
  have := two_zpow_pos (b.exponent - 2)
  positivity

/-- **A double is known by its shortest decimal**, but for its sign. -/
theorem eq_of_shortest_value_eq {a b : Binary64} (ha : a.Canonical) (hb : b.Canonical)
    (h : (shortest a).value = (shortest b).value) :
    a.mantissa = b.mantissa ∧ a.exponent = b.exponent := by
  have value_zero {c : Binary64} (hc : c.Canonical) (hZero : c.mantissa = 0) :
      (shortest c).value = 0 ∧ c.exponent = -1074 := by
    constructor
    · simp [shortest, hZero, Scientific.value, digitsValue, Nat.ofDigitChars]
    · by_contra normal
      have := hc.full normal
      omega
  rcases Nat.eq_zero_or_pos a.mantissa with hm | hm <;>
    rcases Nat.eq_zero_or_pos b.mantissa with hn | hn
  · rw [(value_zero ha hm).2, (value_zero hb hn).2, hm, hn]
    exact ⟨rfl, rfl⟩
  · rw [(value_zero ha hm).1] at h
    exact absurd h (pos_of_contains hn (contains_shortest hb hn)).ne
  · rw [(value_zero hb hn).1] at h
    exact absurd h (pos_of_contains hm (contains_shortest ha hm)).ne'
  · refine eq_of_contains ha hb hm hn (contains_shortest ha hm) ?_
    rw [h]
    exact contains_shortest hb hn

end SuiteAudit.Decimal
