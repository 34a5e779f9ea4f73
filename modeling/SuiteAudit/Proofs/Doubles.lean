import SuiteAudit.Proofs.Quotients
import SuiteAudit.Score.Number

/-!
# Doubles of bounded size

A double is `Below k` if it is finite and its magnitude is less than `2 ^ k`. Each operation keeps
such a bound, with a few binary digits to spare, and a double within a bound has a whole part
(`doubleNoWholePart?_of_below`): as long as a computation is short and starts from small numbers it
never leaves the finite doubles.
-/

namespace SuiteAudit.Decimal

open Float.Model Float.Model.UnpackedFloat

/-! ### Mantissas and exponents -/

/-- **`mantissa * 2 ^ exponent` is less than `2 ^ k`.** -/
def Within (mantissa : Nat) (exponent k : Int) : Prop :=
  ∃ bits : Nat, mantissa < 2 ^ bits ∧ bits + exponent ≤ k

section

variable {m n : Nat} {d e k j : Int}

theorem Within.mono (h : Within m e k) (hk : k ≤ j) : Within m e j := by
  obtain ⟨bits, small, bound⟩ := h
  exact ⟨bits, small, bound.trans hk⟩

theorem Within.of_le (h : Within m e k) (hn : n ≤ m) : Within n e k := by
  obtain ⟨bits, small, bound⟩ := h
  exact ⟨bits, hn.trans_lt small, bound⟩

/-- The number of binary digits is the least bound. -/
theorem within_iff (h : 0 < m) : Within m e k ↔ totalExponent m e ≤ k := by
  unfold totalExponent
  constructor
  · rintro ⟨bits, small, bound⟩
    have := (Nat.log2_lt h.ne').mpr small
    omega
  · intro bound
    exact ⟨m.log2 + 1, Nat.lt_log2_self, by omega⟩

/-- One more digit holds the next whole number. -/
theorem Within.succ (h : Within m e k) : Within (m + 1) e (k + 1) := by
  obtain ⟨bits, small, bound⟩ := h
  refine ⟨bits + 1, ?_, by omega⟩
  rw [Nat.pow_succ]
  omega

/-- One more digit holds a sum. -/
theorem Within.add (hm : Within m e k) (hn : Within n e k) : Within (m + n) e (k + 1) := by
  obtain ⟨a, m_small, hm⟩ := hm
  obtain ⟨b, n_small, hn⟩ := hn
  refine ⟨max a b + 1, ?_, by omega⟩
  have m_small := m_small.trans_le (Nat.pow_le_pow_right Nat.two_pos (le_max_left a b))
  have n_small := n_small.trans_le (Nat.pow_le_pow_right Nat.two_pos (le_max_right a b))
  rw [Nat.pow_succ]
  omega

/-- The digits of a product are no more than those of its factors. -/
theorem Within.mul (hm : Within m d j) (hn : Within n e k) :
    Within (m * n) (d + e) (j + k) := by
  obtain ⟨a, m_small, hm⟩ := hm
  obtain ⟨b, n_small, hn⟩ := hn
  refine ⟨a + b, ?_, by omega⟩
  rw [Nat.pow_add]
  exact Nat.mul_lt_mul'' m_small n_small

/-- Digits that are added below the others raise the mantissa and lower the exponent. -/
theorem Within.shiftLeft (h : Within m e k) (count : Nat) :
    Within (m <<< count) (e - count) k := by
  obtain ⟨bits, small, bound⟩ := h
  refine ⟨bits + count, ?_, by omega⟩
  rw [Nat.shiftLeft_eq, Nat.pow_add]
  exact Nat.mul_lt_mul_of_pos_right small (Nat.two_pow_pos count)

/-- Digits that are dropped lower the mantissa and raise the exponent. -/
theorem Within.shiftRight (h : Within m e k) {count : Nat} (hk : e + count ≤ k) :
    Within (m / 2 ^ count) (e + count) k := by
  obtain ⟨bits, small, bound⟩ := h
  refine ⟨bits - count, ?_, by omega⟩
  rw [Nat.div_lt_iff_lt_mul (Nat.two_pow_pos count), ← Nat.pow_add]
  exact small.trans_le (Nat.pow_le_pow_right Nat.two_pos (by omega))

end

/-! ### Rounding -/

theorem mantissa_shiftRight (em : ExtendedMantissa) (count : Nat) :
    (em >>> count).mantissa = em.mantissa / 2 ^ count := by
  show (count.repeat ExtendedMantissa.shiftRightOne em).mantissa = _
  induction count with
  | zero => exact (Nat.div_one _).symm
  | succ count ih =>
    show (count.repeat ExtendedMantissa.shiftRightOne em).mantissa / 2 = _
    rw [ih, Nat.div_div_eq_div_mul, Nat.pow_succ]

theorem roundedMantissa_le (em : ExtendedMantissa) : em.roundedMantissa ≤ em.mantissa + 1 := by
  obtain ⟨m, round, sticky⟩ := em
  unfold ExtendedMantissa.roundedMantissa
  cases round <;> cases sticky <;>
    simp only [ExtendedMantissa.accuracy, Accuracy.roundToNearestEven] <;> omega

theorem mantissa_ofMantissaAndAccuracy (m : Nat) (accuracy : Accuracy) :
    (ExtendedMantissa.ofMantissaAndAccuracy m accuracy).mantissa = m := by
  cases accuracy with
  | exact => rfl
  | inexact order => cases order <;> rfl

/-- Shifting a number to the exponent that the format wants keeps its bound. -/
theorem Within.shiftToTarget {m : Nat} {e k : Int} (h : Within m e k) (hk : 0 ≤ k)
    (accuracy : Accuracy) :
    Within (shiftToTargetExponent Format.binary64 m e accuracy).1.mantissa
      (shiftToTargetExponent Format.binary64 m e accuracy).2 k := by
  have exponent_le : e ≤ k := by
    obtain ⟨bits, -, bound⟩ := h
    omega
  have total_le : totalExponent m e ≤ k + 1 := by
    rcases Nat.eq_zero_or_pos m with rfl | hm
    · rw [totalExponent, Nat.log2_zero]
      omega
    · have := (within_iff hm).mp h
      omega
  have target_le : Format.binary64.targetExponent (totalExponent m e) ≤ k := by
    have digits : Format.binary64.mantissaBits = 53 := rfl
    have least : Format.binary64.minExponent = -1074 := rfl
    unfold Format.targetExponent
    omega
  unfold shiftToTargetExponent shiftToExponent
  dsimp only
  rw [mantissa_shiftRight, mantissa_ofMantissaAndAccuracy]
  apply h.shiftRight
  omega

/-! ### Unpacked doubles -/

/-- **A finite number whose magnitude is less than `2 ^ k`.** -/
def UnpackedBelow (k : Nat) : UnpackedFloat → Prop
  | .zero _ => True
  | .finite _ m e _ => totalExponent m e ≤ k
  | .infinity _ | .notANumber => False

instance (k : Nat) : DecidablePred (UnpackedBelow k)
  | .zero _ => .isTrue trivial
  | .finite _ m e _ => inferInstanceAs (Decidable (totalExponent m e ≤ k))
  | .infinity _ | .notANumber => .isFalse id

theorem unpackedBelow_finite {k m : Nat} {e : Int} {sign : Sign} {hm : 0 < m} :
    UnpackedBelow k (.finite sign m e hm) ↔ Within m e k :=
  (within_iff hm).symm

/-- A number that is zero in one case is bounded if it is in the other. -/
theorem unpackedBelow_dite {p : Prop} [Decidable p] {k : Nat} {sign : Sign}
    {u : ¬ p → UnpackedFloat} (h : ∀ hp, UnpackedBelow k (u hp)) :
    UnpackedBelow k (if hp : p then .zero sign else u hp) := by
  by_cases hp : p
  · rw [dif_pos hp]
    trivial
  · rw [dif_neg hp]
    exact h hp

theorem UnpackedBelow.mono {u : UnpackedFloat} {k j : Nat} (h : UnpackedBelow k u) (hk : k ≤ j) :
    UnpackedBelow j u := by
  cases u with
  | zero sign => trivial
  | finite sign m e hm => exact h.trans (Int.ofNat_le.mpr hk)
  | infinity sign => exact h.elim
  | notANumber => exact h.elim

/-- **Rounding takes one more digit at most.** -/
theorem below_roundWithAccuracy {m : Nat} {e : Int} {k : Nat} (h : Within m e k) (sign : Sign)
    (accuracy : Accuracy) :
    UnpackedBelow (k + 1) (roundWithAccuracy Format.binary64 sign m e accuracy) := by
  have shifted := h.shiftToTarget (Int.natCast_nonneg k) accuracy
  have rounded := shifted.succ.of_le (roundedMantissa_le _)
  have again := rounded.shiftToTarget (by omega) .exact
  unfold roundWithAccuracy
  dsimp only
  exact unpackedBelow_dite fun _ => unpackedBelow_finite.mpr again

theorem below_round {m : Nat} {e : Int} {k : Nat} (h : Within m e k) (sign : Sign) :
    UnpackedBelow (k + 1) (UnpackedFloat.round Format.binary64 sign m e) :=
  below_roundWithAccuracy (h.shiftLeft _) sign .exact

theorem below_normalize {m : Int} {e : Int} {k : Nat} (h : Within m.natAbs e k) (zeroSign : Sign) :
    UnpackedBelow (k + 1) (UnpackedFloat.normalize Format.binary64 m e zeroSign) := by
  unfold UnpackedFloat.normalize
  split
  · exact below_round (h.of_le (by omega)) .negative
  · trivial
  · exact below_round (h.of_le (by omega)) .positive

/-- A number of either sign has the magnitude that it was given. -/
theorem natAbs_apply (sign : Sign) (n : Int) : (sign.apply n).natAbs = n.natAbs := by
  cases sign
  · exact Int.natAbs_neg n
  · rfl

theorem below_add {x y : UnpackedFloat} {k : Nat} (hx : UnpackedBelow k x)
    (hy : UnpackedBelow k y) : UnpackedBelow (k + 2) (UnpackedFloat.add Format.binary64 x y) := by
  match x, y with
  | .zero a, .zero b =>
    unfold UnpackedFloat.add
    dsimp only
    split <;> trivial
  | .zero _, .finite .. => exact hy.mono (by omega)
  | .finite .., .zero _ => exact hx.mono (by omega)
  | .finite s m d _, .finite t n e _ =>
    -- Both numbers are written with the lesser exponent before their mantissas are added.
    have left := (unpackedBelow_finite.mp hx).shiftLeft (d - min d e).toNat
    have right := (unpackedBelow_finite.mp hy).shiftLeft (e - min d e).toNat
    rw [show d - ((d - min d e).toNat : Int) = min d e by omega] at left
    rw [show e - ((e - min d e).toNat : Int) = min d e by omega] at right
    refine below_normalize ((left.add right).of_le ?_) .positive
    refine (Int.natAbs_add_le _ _).trans_eq ?_
    rw [natAbs_apply, natAbs_apply, Int.natAbs_natCast, Int.natAbs_natCast]

theorem below_mul {x y : UnpackedFloat} {j k : Nat} (hx : UnpackedBelow j x)
    (hy : UnpackedBelow k y) :
    UnpackedBelow (j + k + 1) (UnpackedFloat.mul Format.binary64 x y) := by
  match x, y with
  | .zero _, .zero _ => trivial
  | .zero _, .finite .. => trivial
  | .finite .., .zero _ => trivial
  | .finite .., .finite .. =>
    have product := (unpackedBelow_finite.mp hx).mul (unpackedBelow_finite.mp hy)
    rw [← Int.natCast_add] at product
    exact below_roundWithAccuracy product _ _

/-- **A finite number other than zero that is a multiple of `2 ^ -k`.** -/
def UnpackedMultiple (k : Nat) : UnpackedFloat → Prop
  | .finite _ _ e _ => -(k : Int) ≤ e
  | .zero _ | .infinity _ | .notANumber => False

instance (k : Nat) : DecidablePred (UnpackedMultiple k)
  | .finite _ _ e _ => inferInstanceAs (Decidable (-(k : Int) ≤ e))
  | .zero _ | .infinity _ | .notANumber => .isFalse id

theorem below_div {x y : UnpackedFloat} {j k : Nat} (hx : UnpackedBelow j x)
    (hy : UnpackedMultiple k y) :
    UnpackedBelow (j + k + 1) (UnpackedFloat.div Format.binary64 x y) := by
  match x, y with
  | .zero _, .finite .. => trivial
  | .finite _ m d _, .finite _ n e _ =>
    have hy : -(k : Int) ≤ e := hy
    set target := min (d - e)
      (Format.binary64.targetExponent (totalExponent m d - totalExponent n e)) with hTarget
    -- The dividend gets enough digits first, and the divisor only takes digits away.
    have dividend := (unpackedBelow_finite.mp hx).shiftLeft (d - e - target).toNat
    obtain ⟨bits, small, bound⟩ := dividend.of_le (Nat.div_le_self _ n)
    refine below_roundWithAccuracy ⟨bits, small, ?_⟩ _ _
    show bits + target ≤ _
    omega

/-! ### Packing -/

/-- The exponent of a packed double tells how large it is. -/
theorem below_unpack {bits : BitVec Format.binary64.numBits} {k : Nat} (hk : k ≤ 900)
    (h : (unpackExponent bits).toNat ≤ k + 1022) :
    UnpackedBelow k (UnpackedFloat.unpack Format.binary64 bits) := by
  have bias : (Format.binary64.exponentBias : Int) = 1023 := rfl
  have mantissa_lt : (unpackMantissa bits).toNat < 2 ^ 52 := (unpackMantissa bits).isLt
  have finite : unpackExponent bits ≠ -1#11 := by
    intro infinite
    rw [infinite] at h
    have : (-1#11).toNat = 2047 := rfl
    omega
  unfold UnpackedFloat.unpack
  dsimp only
  rw [if_neg finite]
  refine iteInduction (motive := UnpackedBelow k) (fun hZero => ?subnormal) fun _ => ?normal
  case subnormal =>
    refine unpackedBelow_dite fun _ => unpackedBelow_finite.mpr ⟨52, mantissa_lt, ?_⟩
    rw [hZero, bias]
    simp
  case normal =>
    refine unpackedBelow_finite.mpr ⟨53, BitVec.isLt _, ?_⟩
    rw [bias]
    push_cast
    omega

/-- **Packing keeps a bound**, for the exponent fits. -/
theorem below_unpack_pack {u : UnpackedFloat} {k : Nat} (hk : k ≤ 900) (h : UnpackedBelow k u) :
    UnpackedBelow k
      (UnpackedFloat.unpack Format.binary64 (UnpackedFloat.pack Format.binary64 u)) := by
  match u with
  | .zero sign => cases sign <;> trivial
  | .finite sign m e hm =>
    have h : m.log2 + 1 + e ≤ k := h
    have bias : Format.binary64.exponentBias = 1023 := rfl
    have digits : Format.binary64.mantissaBits = 53 := rfl
    unfold UnpackedFloat.pack
    dsimp only
    rw [if_neg (by omega)]
    apply below_unpack hk
    split
    · rw [unpackExponent_packComponents, BitVec.toNat_ofNat]
      apply (Nat.mod_le _ _).trans
      omega
    · rw [unpackExponent_packComponents]
      exact Nat.zero_le _

/-! ### Doubles -/

/-- **A finite double whose magnitude is less than `2 ^ k`.** -/
def Below (k : Nat) (x : Float) : Prop :=
  UnpackedBelow k x.toModel.unpack

instance (k : Nat) : DecidablePred (Below k) :=
  fun x => inferInstanceAs (Decidable (UnpackedBelow k x.toModel.unpack))

/-- **A double other than zero that is a multiple of `2 ^ -k`.** -/
def Multiple (k : Nat) (x : Float) : Prop :=
  UnpackedMultiple k x.toModel.unpack

instance (k : Nat) : DecidablePred (Multiple k) :=
  fun x => inferInstanceAs (Decidable (UnpackedMultiple k x.toModel.unpack))

section

variable {x y : Float} {j k : Nat}

theorem Below.mono (h : Below k x) (hk : k ≤ j) : Below j x :=
  UnpackedBelow.mono h hk

theorem Below.add (hx : Below k x) (hy : Below k y) (hk : k + 2 ≤ 900) : Below (k + 2) (x + y) :=
  below_unpack_pack hk (below_add hx hy)

theorem Below.mul (hx : Below j x) (hy : Below k y) (hk : j + k + 1 ≤ 900) :
    Below (j + k + 1) (x * y) :=
  below_unpack_pack hk (below_mul hx hy)

theorem Below.div (hx : Below j x) (hy : Multiple k y) (hk : j + k + 1 ≤ 900) :
    Below (j + k + 1) (x / y) :=
  below_unpack_pack hk (below_div hx hy)

/-- A sum takes two more digits for each number at most. -/
theorem below_sum {values : List Float} (h : ∀ x ∈ values, Below k x)
    (hk : k + 2 * values.length ≤ 900) :
    Below (k + 2 * values.length) (ScoreNumber.sum values) := by
  suffices foldl_below : ∀ (values : List Float) (j : Nat) (total : Float),
      (∀ x ∈ values, Below k x) → k ≤ j → Below j total → j + 2 * values.length ≤ 900 →
        Below (j + 2 * values.length) (values.foldl (· + ·) total) by
    have zero : Below 0 (ScoreNumber.ofInt 0) := by decide +kernel
    exact foldl_below values k _ h le_rfl (zero.mono (Nat.zero_le k)) hk
  intro values
  induction values with
  | nil => exact fun j total _ _ hTotal _ => hTotal
  | cons x values ih =>
    intro j total h hkj hTotal hj
    rw [List.length_cons] at hj ⊢
    have next := hTotal.add ((h x List.mem_cons_self).mono hkj) (by omega)
    rw [show j + 2 * (values.length + 1) = j + 2 + 2 * values.length by ring]
    exact ih _ _ (fun y hy => h y (List.mem_cons_of_mem x hy)) (by omega) next (by omega)

/-! ### Quotients and whole parts -/

theorem toNat_unpackExponent (bits : BitVec Format.binary64.numBits) :
    (unpackExponent bits).toNat = bits.toNat / twoPow 52 % twoPow 11 := by
  rw [unpackExponent, BitVec.toNat_cast, BitVec.extractLsb_toNat, Nat.shiftRight_eq_div_pow]
  rfl

/-- **The double near a small quotient is small.** -/
theorem below_quotient {num den : Int} (hNum : 0 ≤ num) (hDen : 0 < den)
    (h : num ≤ 2 ^ j * den) (hj : j + 2 ≤ 900) : Below (j + 2) (quotient num den) := by
  have bits_le : nearestBits num.natAbs den.natAbs ≤ (j + 1024) * twoPow 52 := by
    apply nearestBits_le (Int.natAbs_pos.mpr hDen.ne')
    zify
    rwa [abs_of_nonneg hNum, abs_of_pos hDen]
  have same_sign : (decide (num < 0) != decide (den < 0)) = false := by
    rw [decide_eq_false (by omega), decide_eq_false (by omega)]
    rfl
  unfold quotient
  rw [same_sign]
  set bits := min infiniteBits (nearestBits num.natAbs den.natAbs)
  apply below_unpack_pack hj
  apply below_unpack hj
  rw [toNat_unpackExponent]
  have low : bits ≤ (j + 1024) * twoPow 52 := (Nat.min_le_right _ _).trans bits_le
  have high : bits < 2 ^ 64 := (Nat.min_le_left _ _).trans_lt (by decide)
  calc
    bits.toUInt64.toNat / twoPow 52 % twoPow 11 ≤ bits.toUInt64.toNat / twoPow 52 := Nat.mod_le _ _
    _ = bits / twoPow 52 := by rw [UInt64.toNat_ofNat_of_lt' high]
    _ ≤ (j + 1024) * twoPow 52 / twoPow 52 := Nat.div_le_div_right low
    _ = j + 2 + 1022 := Nat.mul_div_cancel _ (twoPow_pos 52)

/-- The exponent of an infinity, and of what is not a number, is not that of a bounded number. -/
theorem unpackExponent_of_below {bits : BitVec Format.binary64.numBits}
    (h : UnpackedBelow k (UnpackedFloat.unpack Format.binary64 bits)) :
    (unpackExponent bits).toNat ≠ 2047 := by
  intro biased
  have special : unpackExponent bits = -1#11 := BitVec.eq_of_toNat_eq biased
  unfold UnpackedFloat.unpack at h
  dsimp only at h
  rw [if_pos special] at h
  split at h <;> exact h

/-- **A double within a bound has a whole part.** -/
theorem doubleNoWholePart?_of_below (h : Below k x) : doubleNoWholePart? x = none := by
  have biased : x.toBits.toNat / twoPow 52 % twoPow 11 ≠ 2047 := by
    have := unpackExponent_of_below h
    rwa [toNat_unpackExponent] at this
  have finite : ∃ b, Binary64.ofFloat? x = some b := by
    unfold Binary64.ofFloat?
    dsimp only
    rw [if_neg (by simpa using biased)]
    split <;> exact ⟨_, rfl⟩
  obtain ⟨b, hb⟩ := finite
  rw [doubleNoWholePart?, wholePart, hb]

/-- The magnitude of a finite double is at most that of the greatest one. -/
theorem natAbs_whole_le {b : Binary64} (h : Binary64.ofFloat? x = some b) :
    b.whole.natAbs ≤ largestWhole := by
  have range : b.mantissa ≤ twoPow 53 - 1 ∧ b.exponent ≤ 971 := by
    unfold Binary64.ofFloat? at h
    dsimp only at h
    have fraction : x.toBits.toNat % twoPow 52 < twoPow 52 := Nat.mod_lt _ (twoPow_pos 52)
    have biased : x.toBits.toNat / twoPow 52 % twoPow 11 < twoPow 11 :=
      Nat.mod_lt _ (twoPow_pos 11)
    have powers : twoPow 52 = 2 ^ 52 ∧ twoPow 53 = 2 ^ 53 ∧ twoPow 11 = 2 ^ 11 := ⟨rfl, rfl, rfl⟩
    split at h
    · cases h
    · next special =>
      rw [beq_iff_eq] at special
      split at h <;> obtain rfl := Option.some.inj h <;> simp only [Int.ofNat_eq_natCast] <;> omega
  have magnitude : b.whole.natAbs = b.fraction.1 / b.fraction.2 := by
    unfold Binary64.whole
    dsimp only
    split
    · rw [Int.natAbs_neg, Int.ofNat_eq_natCast, Int.natAbs_natCast]
    · rw [Int.ofNat_eq_natCast, Int.natAbs_natCast]
  rw [magnitude]
  unfold Binary64.fraction
  cases hExponent : b.exponent with
  | ofNat e =>
    have : e ≤ 971 := by
      have := range.2
      rw [hExponent] at this
      exact Int.ofNat_le.mp this
    rw [Nat.div_one]
    exact Nat.mul_le_mul range.1 (twoPow_le this)
  | negSucc e =>
    calc
      b.mantissa / twoPow (e + 1) ≤ b.mantissa := Nat.div_le_self _ _
      _ ≤ (twoPow 53 - 1) * 1 := by omega
      _ ≤ (twoPow 53 - 1) * twoPow 971 := Nat.mul_le_mul_left _ (twoPow_pos 971)

/-- **Whatever a double is rounded down to, it is near a finite double again.** -/
theorem natAbs_floorOfDouble_le (x : Float) : (floorOfDouble x).natAbs ≤ largestWhole := by
  unfold floorOfDouble wholePart
  cases h : Binary64.ofFloat? x.floor with
  | some b => exact natAbs_whole_le h
  | none => exact Nat.zero_le _

end

end SuiteAudit.Decimal
