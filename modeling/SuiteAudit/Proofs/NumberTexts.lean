import SuiteAudit.Decimal.Written
import SuiteAudit.Proofs.Doubles
import SuiteAudit.Proofs.ShortestDecimals

/-!
# Numbers are known by their texts

The text of a decimal stands for the decimal (`numeralValue_text`), with an exponent or without. A
finite double is known by its shortest decimal and so by its text, and the words for the other
doubles are words of their own: `floatText_injective`.
-/

namespace SuiteAudit.Decimal

/-! ### Reading a decimal -/

/-- Whether all characters are digits. -/
def Digits (cs : List Char) : Prop :=
  ∀ c ∈ cs, c.isDigit = true

/-- The number after a sign. -/
def signedValue : List Char → Int
  | [] => 0
  | sign :: digits => if sign = '-' then -digitsValue digits else digitsValue digits

/-- How many characters stand after the point. -/
def places (cs : List Char) : Nat :=
  ((cs.dropWhile (· != '.')).drop 1).length

/-- **The number that a numeral stands for**: its digits, with a point among them and an exponent
after them, or without. -/
def numeralValue (cs : List Char) : Rat :=
  let front := cs.takeWhile (· != 'e')
  let exponent := signedValue ((cs.dropWhile (· != 'e')).drop 1)
  digitsValue (front.filter (· != '.')) * 10 ^ (exponent - places front)

/-- No digit is one of the other characters of a numeral. -/
theorem ne_of_isDigit {c d : Char} (h : c.isDigit = true) (hd : d.isDigit = false) : c ≠ d := by
  rintro rfl
  rw [h] at hd
  cases hd

theorem Digits.all_ne {cs : List Char} (h : Digits cs) {d : Char} (hd : d.isDigit = false) :
    ∀ c ∈ cs, (c != d) = true :=
  fun c hc => bne_iff_ne.mpr (ne_of_isDigit (h c hc) hd)

theorem Digits.append {front back : List Char} (hFront : Digits front) (hBack : Digits back) :
    Digits (front ++ back) :=
  List.forall_mem_append.mpr ⟨hFront, hBack⟩

theorem digits_toDigits (n : Nat) : Digits (Nat.toDigits 10 n) :=
  fun _ hc => Nat.isDigit_of_mem_toDigits (by norm_num) (by norm_num) hc

theorem digits_zeros (n : Nat) : Digits (List.replicate n '0') := by
  intro c hc
  rw [List.eq_of_mem_replicate hc]
  rfl

/-- A numeral without an exponent. -/
theorem numeralValue_of_no_exponent {cs : List Char} (h : ∀ c ∈ cs, (c != 'e') = true) :
    numeralValue cs = digitsValue (cs.filter (· != '.')) * 10 ^ (-(places cs : Int)) := by
  rw [numeralValue, List.takeWhile_eq_self_iff.mpr h, List.dropWhile_eq_nil_iff.mpr h]
  simp [signedValue]

/-- A numeral with an exponent. -/
theorem numeralValue_exponent {cs : List Char} (h : ∀ c ∈ cs, (c != 'e') = true)
    (tail : List Char) :
    numeralValue (cs ++ 'e' :: tail) =
      digitsValue (cs.filter (· != '.')) * 10 ^ (signedValue tail - places cs) := by
  rw [numeralValue, List.takeWhile_append_of_pos h, List.dropWhile_append_of_pos h]
  simp

section

variable {front back : List Char}

theorem filter_point (hFront : Digits front) (hBack : Digits back) :
    (front ++ '.' :: back).filter (· != '.') = front ++ back := by
  rw [List.filter_append, List.filter_cons_of_neg (by simp),
    List.filter_eq_self.mpr (hFront.all_ne rfl), List.filter_eq_self.mpr (hBack.all_ne rfl)]

theorem places_point (hFront : Digits front) : places (front ++ '.' :: back) = back.length := by
  rw [places, List.dropWhile_append_of_pos (hFront.all_ne rfl)]
  simp

theorem places_digits (hFront : Digits front) : places front = 0 := by
  rw [places, List.dropWhile_eq_nil_iff.mpr (hFront.all_ne rfl)]
  rfl

theorem ne_exponent_point (hFront : Digits front) (hBack : Digits back) :
    ∀ c ∈ front ++ '.' :: back, (c != 'e') = true := by
  intro c hc
  rcases List.mem_append.mp hc with hc | hc
  · exact hFront.all_ne rfl c hc
  · rcases List.mem_cons.mp hc with rfl | hc
    · rfl
    · exact hBack.all_ne rfl c hc

/-- **A numeral with a point** and no exponent. -/
theorem numeralValue_point (hFront : Digits front) (hBack : Digits back) :
    numeralValue (front ++ '.' :: back) =
      digitsValue (front ++ back) * 10 ^ (-(back.length : Int)) := by
  rw [numeralValue_of_no_exponent (ne_exponent_point hFront hBack), filter_point hFront hBack,
    places_point hFront]

/-- **A numeral with a point** and an exponent. -/
theorem numeralValue_point_exponent (hFront : Digits front) (hBack : Digits back)
    (tail : List Char) :
    numeralValue (front ++ '.' :: back ++ 'e' :: tail) =
      digitsValue (front ++ back) * 10 ^ (signedValue tail - back.length) := by
  rw [numeralValue_exponent (ne_exponent_point hFront hBack), filter_point hFront hBack,
    places_point hFront]

end

/-! ### Writing a decimal -/

/-- The text of an exponent stands for it. -/
theorem signedValue_exponentText (e : Int) : signedValue (exponentText e) = e := by
  have padded : digitsValue (if (Nat.toDigits 10 e.natAbs).length < 2
      then '0' :: Nat.toDigits 10 e.natAbs else Nat.toDigits 10 e.natAbs) = e.natAbs := by
    split <;> exact digitsValue_toDigits _
  unfold exponentText signedValue
  dsimp only
  rw [padded]
  rcases lt_or_ge e 0 with negative | nonneg
  · rw [if_pos negative, if_pos rfl, Int.ofNat_natAbs_of_nonpos negative.le, neg_neg]
  · rw [if_neg nonneg.not_gt, if_neg (by decide), Int.natAbs_of_nonneg nonneg]

/-- Zeros after the digits are powers of ten. -/
theorem digitsValue_append_zeros (digits : List Char) (n : Nat) :
    digitsValue (digits ++ List.replicate n '0') = 10 ^ n * digitsValue digits := by
  rw [digitsValue_append, digitsValue_zeros, List.length_replicate, Nat.add_zero]

/-- A digit with an exponent. -/
theorem numeralValue_digit {d : Char} (h : Digits [d]) (e : Int) :
    numeralValue (d :: 'e' :: exponentText e) = digitsValue [d] * 10 ^ e := by
  have value := numeralValue_exponent (h.all_ne rfl) (exponentText e)
  rw [signedValue_exponentText, places_digits h, List.filter_eq_self.mpr (h.all_ne rfl)] at value
  simpa using value

/-- Digits with an exponent: the point comes after the first of them. -/
theorem numeralValue_scientific {d : Char} {rest : List Char} (h : Digits (d :: rest)) (e : Int) :
    numeralValue (d :: '.' :: rest ++ 'e' :: exponentText e) =
      digitsValue (d :: rest) * 10 ^ (e - rest.length) := by
  obtain ⟨hFirst, hRest⟩ := List.forall_mem_append.mp (show ∀ c ∈ [d] ++ rest, _ from h)
  have value := numeralValue_point_exponent hFirst hRest (exponentText e)
  rwa [signedValue_exponentText] at value

section

variable {digits : List Char} (h : Digits digits)
include h

/-- A decimal less than one. -/
theorem numeralValue_fraction {e : Int} (negative : e < 0) :
    numeralValue ('0' :: '.' :: List.replicate (e.natAbs - 1) '0' ++ digits) =
      digitsValue digits * 10 ^ (e + 1 - digits.length) := by
  have zero : Digits ['0'] := digits_zeros 1
  refine (numeralValue_point zero ((digits_zeros (e.natAbs - 1)).append h)).trans ?_
  rw [show ['0'] = List.replicate 1 '0' from rfl, digitsValue_append, digitsValue_zeros,
    digitsValue_append, digitsValue_zeros, List.length_append, List.length_replicate]
  simp only [mul_zero, zero_add]
  congr 2
  push_cast
  omega

/-- A decimal with all its digits before the point, and zeros after them. -/
theorem numeralValue_short {whole : Nat} (short : digits.length ≤ whole) :
    numeralValue (digits ++ List.replicate (whole - digits.length) '0' ++ ['.', '0']) =
      digitsValue digits * 10 ^ ((whole : Int) - digits.length) := by
  have zero : Digits ['0'] := digits_zeros 1
  refine (numeralValue_point (h.append (digits_zeros _)) zero).trans ?_
  rw [List.append_assoc, ← List.replicate_succ', digitsValue_append_zeros]
  push_cast
  rw [mul_comm ((10 : Rat) ^ _), mul_assoc, ← zpow_natCast, ← zpow_add₀ (by norm_num)]
  congr 2
  simp only [List.length_singleton]
  omega

/-- A decimal with digits on both sides of the point. -/
theorem numeralValue_long {whole : Nat} (long : whole < digits.length) :
    numeralValue (digits.take whole ++ '.' :: digits.drop whole) =
      digitsValue digits * 10 ^ ((whole : Int) - digits.length) := by
  have front : Digits (digits.take whole) := fun c hc => h c (List.mem_of_mem_take hc)
  have back : Digits (digits.drop whole) := fun c hc => h c (List.mem_of_mem_drop hc)
  refine (numeralValue_point front back).trans ?_
  rw [List.take_append_drop, List.length_drop]
  congr 2
  omega

end

/-- **The text of a decimal stands for it.** -/
theorem numeralValue_text {s : Scientific} (h : Digits s.digits) (nonempty : s.digits ≠ []) :
    numeralValue s.text = s.value := by
  obtain ⟨digits, exponent⟩ := s
  dsimp only at h nonempty
  unfold Scientific.text Scientific.value
  dsimp only
  split
  · match digits, h with
    | [d], h =>
      refine (numeralValue_digit h exponent).trans ?_
      simp
    | d :: e :: rest, h =>
      refine (numeralValue_scientific h exponent).trans ?_
      congr 2
      simp only [List.length_cons]
      push_cast
      ring
  · split
    · next negative => exact numeralValue_fraction h negative
    · next nonneg =>
      have hWhole : exponent + 1 = ((exponent.toNat + 1 : Nat) : Int) := by omega
      rw [hWhole]
      generalize exponent.toNat + 1 = whole
      rcases le_or_gt digits.length whole with short | long
      · rw [List.drop_eq_nil_of_le short, List.take_of_length_le short]
        exact numeralValue_short h short
      · have filled : whole - (digits.take whole).length = 0 := by
          rw [List.length_take]
          omega
        have more : (digits.drop whole).isEmpty = false := by
          rw [List.isEmpty_eq_false_iff]
          exact List.drop_eq_nil_iff.not.mpr long.not_ge
        rw [filled, more, List.replicate_zero, List.append_nil]
        exact numeralValue_long h long

/-! ### The characters of a decimal -/

/-- What a decimal satisfies that can be written: there are digits, and nothing else. -/
structure Scientific.Written (s : Scientific) : Prop where
  digits : Digits s.digits
  nonempty : s.digits ≠ []

theorem written_ofGrid (k : Nat) (e : Int) : (Scientific.ofGrid k e).Written := by
  unfold Scientific.ofGrid
  dsimp only
  constructor
  · intro c hc
    dsimp only at hc
    split at hc
    · rw [List.mem_singleton.mp hc]
      rfl
    · have kept := (List.dropWhile_suffix _).subset (List.mem_reverse.mp hc)
      exact digits_toDigits k c (List.mem_reverse.mp kept)
  · dsimp only
    split
    · simp
    · next more => simpa using more

theorem written_shortestFrom (r : Neighbourhood) (leading : Int) (count tries : Nat) :
    (shortestFrom r leading count tries).Written := by
  induction tries generalizing count with
  | zero => exact written_ofGrid _ _
  | succ tries ih =>
    unfold shortestFrom
    dsimp only
    split
    · exact written_ofGrid _ _
    · exact ih _

theorem written_shortest (b : Binary64) : (shortest b).Written := by
  unfold shortest
  split
  · exact ⟨by simp [Digits], by simp⟩
  · exact written_shortestFrom _ _ _ _

/-- **A character of a decimal**: a digit, a sign, the point or the mark of an exponent. -/
def IsNumeral (c : Char) : Prop :=
  c.isDigit = true ∨ c ∈ ['+', '-', '.', 'e']

theorem Digits.isNumeral {cs : List Char} (h : Digits cs) : ∀ c ∈ cs, IsNumeral c :=
  fun c hc => .inl (h c hc)

theorem isNumeral_exponentText (e : Int) : ∀ c ∈ exponentText e, IsNumeral c := by
  have digits := digits_toDigits e.natAbs
  unfold exponentText
  refine List.forall_mem_cons.mpr ⟨?_, ?_⟩
  · right
    split <;> simp
  · split
    · exact List.forall_mem_cons.mpr ⟨.inl rfl, digits.isNumeral⟩
    · exact digits.isNumeral

/-- **A decimal is written in such characters**, and begins with a digit. -/
theorem isNumeral_text {s : Scientific} (h : s.Written) :
    (∀ c ∈ s.text, IsNumeral c) ∧ ∃ d rest, s.text = d :: rest ∧ d.isDigit = true := by
  obtain ⟨digits, exponent⟩ := s
  obtain ⟨h, nonempty⟩ := h
  dsimp only at h nonempty
  unfold Scientific.text
  dsimp only
  split
  · have tail := isNumeral_exponentText exponent
    match digits, h with
    | [d], h =>
      have hd : d.isDigit = true := h d (by simp)
      refine ⟨?_, _, _, rfl, hd⟩
      simp only [List.forall_mem_cons]
      exact ⟨.inl hd, .inr (by simp), tail⟩
    | d :: e :: rest, h =>
      have hd : d.isDigit = true := h d (by simp)
      have hRest : Digits (e :: rest) := (List.forall_mem_cons.mp h).2
      refine ⟨?_, _, _, rfl, hd⟩
      show ∀ c ∈ [d, '.'] ++ (e :: rest) ++ 'e' :: exponentText exponent, IsNumeral c
      rw [List.forall_mem_append, List.forall_mem_append]
      exact ⟨⟨by simp [IsNumeral, hd], hRest.isNumeral⟩,
        List.forall_mem_cons.mpr ⟨.inr (by simp), tail⟩⟩
  · split
    · refine ⟨?_, _, _, rfl, rfl⟩
      rw [List.cons_append, List.cons_append, List.forall_mem_cons, List.forall_mem_cons]
      exact ⟨.inl rfl, .inr (by simp), ((digits_zeros _).append h).isNumeral⟩
    · set whole := exponent.toNat + 1
      constructor
      · rw [List.forall_mem_append, List.forall_mem_append, List.forall_mem_cons]
        refine ⟨⟨?_, (digits_zeros _).isNumeral⟩, .inr (by simp), ?_⟩
        · exact Digits.isNumeral fun c hc => h c (List.mem_of_mem_take hc)
        · split
          · exact Digits.isNumeral (by simp [Digits])
          · exact Digits.isNumeral fun c hc => h c (List.mem_of_mem_drop hc)
      · obtain ⟨d, rest, rfl⟩ := List.exists_cons_of_ne_nil nonempty
        exact ⟨d, _, rfl, h d (by simp)⟩

/-- **A sign is seen** before a magnitude, which begins with a digit. -/
theorem signed_inj {a b : Bool} {xs ys : List Char}
    (hx : ∃ d rest, xs = d :: rest ∧ d.isDigit = true)
    (hy : ∃ d rest, ys = d :: rest ∧ d.isDigit = true)
    (h : (if a then ['-'] else []) ++ xs = (if b then ['-'] else []) ++ ys) : a = b ∧ xs = ys := by
  obtain ⟨d, rest, rfl, hd⟩ := hx
  obtain ⟨e, others, rfl, he⟩ := hy
  have minus : '-'.isDigit = false := rfl
  cases a <;> cases b <;> simp only [if_true, if_false, Bool.false_eq_true, List.nil_append,
    List.cons_append] at h
  · exact ⟨rfl, h⟩
  · exact absurd (List.cons.inj h).1 (ne_of_isDigit hd minus)
  · exact absurd (List.cons.inj h).1.symm (ne_of_isDigit he minus)
  · exact ⟨rfl, (List.cons.inj h).2⟩

/-! ### Doubles -/

namespace Binary64

variable {x y : Float} {b : Binary64}

theorem canonical_of_ofFloat? (h : ofFloat? x = some b) : b.Canonical := by
  have fraction : x.toBits.toNat % twoPow 52 < 2 ^ 52 := Nat.mod_lt _ (twoPow_pos 52)
  unfold ofFloat? at h
  dsimp only at h
  split at h
  · cases h
  · split at h <;> obtain rfl := Option.some.inj h
    · exact ⟨by dsimp only; omega, le_rfl, fun normal => absurd rfl normal⟩
    · next subnormal =>
      have powers : twoPow 52 = 2 ^ 52 := rfl
      rw [beq_iff_eq] at subnormal
      constructor <;> simp only [Int.ofNat_eq_natCast] <;> omega

/-- The bits of a finite double, from its parts. -/
theorem toBits_of_ofFloat? (h : ofFloat? x = some b) :
    x.toBits.toNat = (if b.negative then 2 ^ 63 else 0) +
      (if b.mantissa < 2 ^ 52 then b.mantissa
        else (b.exponent + 1074).toNat * 2 ^ 52 + b.mantissa) := by
  have bits_lt : x.toBits.toNat < 2 ^ 64 := x.toBits.toNat_lt
  have powers : twoPow 52 = 2 ^ 52 ∧ twoPow 11 = 2 ^ 11 ∧ twoPow 63 = 2 ^ 63 := ⟨rfl, rfl, rfl⟩
  unfold ofFloat? at h
  rw [powers.1, powers.2.1, powers.2.2] at h
  dsimp only at h
  split at h
  · cases h
  · next special =>
    rw [beq_iff_eq] at special
    split at h <;> obtain rfl := Option.some.inj h
    · next subnormal =>
      rw [beq_iff_eq] at subnormal
      simp only [decide_eq_true_eq]
      split <;> split <;> omega
    · next normal =>
      rw [beq_iff_eq] at normal
      simp only [decide_eq_true_eq, Int.ofNat_eq_natCast]
      split <;> split <;> omega

/-- A double is known by its bits. -/
theorem toBits_injective (h : x.toBits = y.toBits) : x = y := by
  obtain ⟨⟨bits, valid⟩⟩ := x
  obtain ⟨⟨others, valid'⟩⟩ := y
  obtain rfl : bits = others := h
  rfl

/-- **A finite double is known by its parts.** -/
theorem ofFloat?_inj (hx : ofFloat? x = some b) (hy : ofFloat? y = some b) : x = y := by
  apply toBits_injective
  rw [← UInt64.toNat_inj, toBits_of_ofFloat? hx, toBits_of_ofFloat? hy]

/-- The bits of a double that is not a number. -/
def nanBits : UInt64 := 0x7FF8000000000000

/-- The bits of infinity. -/
def plusBits : UInt64 := 0x7FF0000000000000

/-- The bits of negative infinity. -/
def minusBits : UInt64 := 0xFFF0000000000000

open Float.Model Float.Model.UnpackedFloat in
/-- **The doubles without parts**: not-a-number and the infinities. -/
theorem ofFloat?_eq_none (h : ofFloat? x = none) :
    x = .ofBits nanBits ∨ x = .ofBits plusBits ∨ x = .ofBits minusBits := by
  have bits_lt : x.toBits.toNat < 2 ^ 64 := x.toBits.toNat_lt
  have biased : x.toBits.toNat / 2 ^ 52 % 2 ^ 11 = 2047 := by
    unfold ofFloat? at h
    dsimp only at h
    split at h
    · next special => simpa [twoPow] using special
    · split at h <;> cases h
  have exponent : @unpackExponent Format.binary64 x.toBits.toBitVec = -1#11 :=
    BitVec.eq_of_toNat_eq ((toNat_unpackExponent _).trans biased)
  have mantissa : (@unpackMantissa Format.binary64 x.toBits.toBitVec).toNat =
      x.toBits.toNat % 2 ^ 52 := by
    rw [unpackMantissa, BitVec.toNat_cast, BitVec.extractLsb_toNat, Nat.shiftRight_zero]
    rfl
  by_cases hZero : @unpackMantissa Format.binary64 x.toBits.toBitVec = 0#52
  · have fraction : x.toBits.toNat % 2 ^ 52 = 0 := by
      rw [← mantissa, hZero]
      rfl
    right
    rcases lt_or_ge x.toBits.toNat (2 ^ 63) with positive | negative
    · left
      apply toBits_injective
      apply UInt64.toNat_inj.mp
      show x.toBits.toNat = 0x7FF0000000000000
      omega
    · right
      apply toBits_injective
      apply UInt64.toNat_inj.mp
      show x.toBits.toNat = 0xFFF0000000000000
      omega
  · left
    have packed := x.toModel.valid.eq_packedNaN exponent hZero
    apply toBits_injective
    apply UInt64.toBitVec_inj.mp
    exact packed

end Binary64

/-! ### Texts of doubles -/

section

variable {x y : Float} {a b : Binary64}

theorem toList_floatText_of_some (h : Binary64.ofFloat? x = some b) :
    (floatText x).toList = (if b.negative then ['-'] else []) ++ (shortest b).text := by
  rw [floatText, h, String.toList_ofList]

/-- **A finite double is known by its text.** -/
theorem eq_of_floatText_eq (hx : Binary64.ofFloat? x = some a) (hy : Binary64.ofFloat? y = some b)
    (h : floatText x = floatText y) : x = y := by
  have lists := congrArg String.toList h
  rw [toList_floatText_of_some hx, toList_floatText_of_some hy] at lists
  have writtenA := written_shortest a
  have writtenB := written_shortest b
  obtain ⟨sign, texts⟩ := signed_inj (isNumeral_text writtenA).2 (isNumeral_text writtenB).2 lists
  have values := congrArg numeralValue texts
  rw [numeralValue_text writtenA.digits writtenA.nonempty,
    numeralValue_text writtenB.digits writtenB.nonempty] at values
  obtain ⟨mantissa, exponent⟩ := eq_of_shortest_value_eq (Binary64.canonical_of_ofFloat? hx)
    (Binary64.canonical_of_ofFloat? hy) values
  obtain rfl : a = b := by
    cases a
    cases b
    simp_all
  exact Binary64.ofFloat?_inj hx hy

theorem isNumeral_floatText (h : Binary64.ofFloat? x = some b) :
    ∀ c ∈ (floatText x).toList, IsNumeral c := by
  rw [toList_floatText_of_some h, List.forall_mem_append]
  refine ⟨?_, (isNumeral_text (written_shortest b)).1⟩
  split
  · simp [IsNumeral]
  · simp

/-- **The words** for the doubles that are not finite. -/
theorem floatText_words :
    floatText (.ofBits Binary64.nanBits) = "nan" ∧
      floatText (.ofBits Binary64.plusBits) = "inf" ∧
      floatText (.ofBits Binary64.minusBits) = "-inf" := by
  decide +kernel

theorem floatText_of_none (h : Binary64.ofFloat? x = none) :
    floatText x = "nan" ∧ x = .ofBits Binary64.nanBits ∨
      floatText x = "inf" ∧ x = .ofBits Binary64.plusBits ∨
      floatText x = "-inf" ∧ x = .ofBits Binary64.minusBits := by
  obtain ⟨nan, plus, minus⟩ := floatText_words
  rcases Binary64.ofFloat?_eq_none h with rfl | rfl | rfl
  · exact .inl ⟨nan, rfl⟩
  · exact .inr (.inl ⟨plus, rfl⟩)
  · exact .inr (.inr ⟨minus, rfl⟩)

/-- The words have a letter that no decimal has. -/
theorem floatText_ne (hx : Binary64.ofFloat? x = some b) (hy : Binary64.ofFloat? y = none) :
    floatText x ≠ floatText y := by
  intro same
  have numeral := isNumeral_floatText hx
  rw [same] at numeral
  have letter : 'n' ∈ (floatText y).toList := by
    rcases floatText_of_none hy with ⟨h, -⟩ | ⟨h, -⟩ | ⟨h, -⟩ <;> rw [h] <;> decide
  have := numeral 'n' letter
  simp [IsNumeral] at this

/-- **A double is known by its text.** Zeros of different sign are different doubles. -/
theorem floatText_injective (h : floatText x = floatText y) : x = y := by
  cases hx : Binary64.ofFloat? x with
  | some a =>
    cases hy : Binary64.ofFloat? y with
    | some b => exact eq_of_floatText_eq hx hy h
    | none => exact absurd h (floatText_ne hx hy)
  | none =>
    cases hy : Binary64.ofFloat? y with
    | some b => exact absurd h.symm (floatText_ne hy hx)
    | none =>
      rcases floatText_of_none hx with ⟨hText, rfl⟩ | ⟨hText, rfl⟩ | ⟨hText, rfl⟩ <;>
        rcases floatText_of_none hy with ⟨hOther, rfl⟩ | ⟨hOther, rfl⟩ | ⟨hOther, rfl⟩ <;>
        have words := hText.symm.trans (h.trans hOther) <;>
        first | rfl | exact absurd words (by decide)

end

/-! ### Texts of whole numbers -/

theorem exists_toDigits_eq_cons (n : Nat) :
    ∃ d rest, Nat.toDigits 10 n = d :: rest ∧ d.isDigit = true := by
  obtain ⟨d, rest, h⟩ := List.exists_cons_of_ne_nil (Nat.toDigits_ne_nil (b := 10) (n := n))
  exact ⟨d, rest, h, digits_toDigits n d (by simp [h])⟩

theorem toList_toString_int (n : Int) :
    (toString n).toList = (if decide (n < 0) then ['-'] else []) ++ Nat.toDigits 10 n.natAbs := by
  rw [Int.toString_eq_repr]
  cases n with
  | ofNat n =>
    show n.repr.toList = _
    rw [Nat.repr_eq_ofList_toDigits, String.toList_ofList]
    simp
  | negSucc n =>
    show ("-" ++ n.succ.repr).toList = _
    rw [Nat.repr_eq_ofList_toDigits, String.toList_append, String.toList_ofList,
      String.toList_ofList, decide_eq_true (Int.negSucc_lt_zero n)]
    rfl

/-- **A whole number is known by its text.** -/
theorem toList_toString_injective {m n : Int} (h : (toString m).toList = (toString n).toList) :
    m = n := by
  rw [toList_toString_int, toList_toString_int] at h
  obtain ⟨sign, digits⟩ := signed_inj (exists_toDigits_eq_cons _) (exists_toDigits_eq_cons _) h
  have magnitudes : m.natAbs = n.natAbs := by
    rw [← digitsValue_toDigits m.natAbs, digits, digitsValue_toDigits]
  have signs : m < 0 ↔ n < 0 := decide_eq_decide.mp sign
  omega

/-- A whole number is written in digits, after a sign or without. -/
theorem isNumeral_toString (n : Int) : ∀ c ∈ (toString n).toList, IsNumeral c := by
  rw [toList_toString_int, List.forall_mem_append]
  refine ⟨?_, (digits_toDigits _).isNumeral⟩
  split
  · simp [IsNumeral]
  · simp

end SuiteAudit.Decimal
