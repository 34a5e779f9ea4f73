import Mathlib.Data.List.DropRight
import SuiteAudit.Proofs.LiteralWords
import SuiteAudit.Syntax.Spelling

/-!
# Plain numerals

The pattern for numbers knows decimal numerals alone: a sign, digits and low lines, a fraction, an
exponent and the `n` of a large number, each where it has to stand (`PlainNumeral`). What a pattern
reads depends on what follows, since a run takes all that it can; so the shapes of patterns are
relations between the text that is read and the text behind it (`Pattern.Reads`), and they are put
together as the patterns are. Source code that spells a plain numeral, its `n` in lower case, has
the value of a number (`PlainNumeral.exists_numeralValue`).
-/

namespace SuiteAudit.Text

/-! ### What patterns read -/

namespace Pattern

/-- **What a pattern reads**: from any place it can end after `s`, where `rest` follows, just if
they have the given shape. -/
def Reads (p : Pattern) (shape : List CodePoint → List CodePoint → Prop) : Prop :=
  ∀ at_ e, e ∈ p.ends at_ ↔
    ∃ s rest, at_.rest = s ++ rest ∧ shape s rest ∧ e = at_.skip s.length

theorem rest_skip_append (at_ : Cursor) {s rest : List CodePoint} (h : at_.rest = s ++ rest) :
    (at_.skip s.length).rest = rest := by
  rw [Cursor.rest_skip, h, List.drop_left]

theorem Reads.congr {p : Pattern} {P Q : List CodePoint → List CodePoint → Prop} (hp : p.Reads P)
    (h : ∀ s rest, P s rest ↔ Q s rest) : p.Reads Q := by
  intro at_ e
  simp only [hp at_ e, h]

theorem reads_nil : (all []).Reads fun s _ => s = [] := by
  intro at_ e
  rw [all, ends, List.mem_singleton]
  constructor
  · rintro rfl
    exact ⟨[], e.rest, rfl, rfl, rfl⟩
  · rintro ⟨_, _, -, rfl, rfl⟩
    rfl

theorem reads_oneOf (accepts : CodePoint → Bool) :
    (oneOf accepts).Reads fun s _ => ∃ c, s = [c] ∧ accepts c = true := by
  intro at_ e
  rw [mem_ends_oneOf]
  constructor
  · rintro ⟨c, rest, hRest, hc, rfl⟩
    exact ⟨[c], rest, hRest, ⟨c, rfl, hc⟩, rfl⟩
  · rintro ⟨_, rest, hRest, ⟨c, rfl, hc⟩, rfl⟩
    exact ⟨c, rest, hRest, hc, rfl⟩

/-- A run reads what its class accepts, up to where it does not. -/
theorem reads_run (accepts : CodePoint → Bool) :
    (run accepts).Reads fun s rest =>
      (∀ c ∈ s, accepts c = true) ∧ ∀ c ∈ rest.head?, accepts c = false := by
  intro at_ e
  rw [ends, List.mem_singleton, runLength_eq, Nat.zero_add]
  constructor
  · rintro rfl
    refine ⟨_, _, List.takeWhile_append_dropWhile.symm,
      ⟨fun c hc => List.mem_takeWhile_imp hc, fun c hc => ?_⟩, rfl⟩
    have := List.head?_dropWhile_not accepts at_.rest
    rw [Option.mem_def.mp hc] at this
    exact this
  · rintro ⟨s, rest, hRest, ⟨all_in, next_out⟩, rfl⟩
    have none_more : rest.takeWhile accepts = [] := by
      cases rest with
      | nil => rfl
      | cons c rest => rw [List.takeWhile_cons, next_out c rfl]; rfl
    rw [hRest, List.takeWhile_append_of_pos all_in, none_more, List.append_nil]

theorem Reads.seq {p q : Pattern} {P Q : List CodePoint → List CodePoint → Prop} (hp : p.Reads P)
    (hq : q.Reads Q) :
    (seq p q).Reads fun s rest => ∃ s₁ s₂, s = s₁ ++ s₂ ∧ P s₁ (s₂ ++ rest) ∧ Q s₂ rest := by
  intro at_ e
  rw [ends, List.mem_flatMap]
  constructor
  · rintro ⟨m, hm, he⟩
    obtain ⟨s₁, rest₁, hRest₁, shape₁, rfl⟩ := (hp at_ m).mp hm
    obtain ⟨s₂, rest, hRest, shape₂, rfl⟩ := (hq _ e).mp he
    rw [rest_skip_append _ hRest₁] at hRest
    subst hRest
    refine ⟨s₁ ++ s₂, rest, by rw [hRest₁, List.append_assoc], ⟨s₁, s₂, rfl, shape₁, shape₂⟩, ?_⟩
    rw [Cursor.skip_skip, List.length_append]
  · rintro ⟨_, rest, hRest, ⟨s₁, s₂, rfl, shape₁, shape₂⟩, rfl⟩
    rw [List.append_assoc] at hRest
    refine ⟨_, (hp at_ _).mpr ⟨s₁, _, hRest, shape₁, rfl⟩, (hq _ _).mpr ⟨s₂, rest, ?_, shape₂, ?_⟩⟩
    · exact rest_skip_append _ hRest
    · rw [Cursor.skip_skip, List.length_append]

theorem Reads.all_cons {p : Pattern} {ps : List Pattern}
    {P Q : List CodePoint → List CodePoint → Prop} (hp : p.Reads P) (hps : (all ps).Reads Q) :
    (all (p :: ps)).Reads fun s rest => ∃ s₁ s₂, s = s₁ ++ s₂ ∧ P s₁ (s₂ ++ rest) ∧ Q s₂ rest := by
  intro at_ e
  rw [← hp.seq hps at_ e, ends_all_cons]
  rfl

theorem Reads.opt {p : Pattern} {P : List CodePoint → List CodePoint → Prop} (hp : p.Reads P) :
    (opt p).Reads fun s rest => s = [] ∨ P s rest := by
  intro at_ e
  rw [mem_ends_opt, hp at_ e]
  constructor
  · rintro (⟨s, rest, hRest, shape, rfl⟩ | rfl)
    · exact ⟨s, rest, hRest, .inr shape, rfl⟩
    · exact ⟨[], _, rfl, .inl rfl, rfl⟩
  · rintro ⟨s, rest, hRest, rfl | shape, rfl⟩
    · exact .inr rfl
    · exact .inl ⟨s, rest, hRest, shape, rfl⟩

theorem reads_none : (first []).Reads fun _ _ => False := by
  intro at_ e
  rw [ends_first]
  exact iff_of_false List.not_mem_nil fun ⟨_, _, _, h, _⟩ => h

theorem Reads.first_cons {p : Pattern} {ps : List Pattern}
    {P Q : List CodePoint → List CodePoint → Prop} (hp : p.Reads P) (hps : (first ps).Reads Q) :
    (first (p :: ps)).Reads fun s rest => P s rest ∨ Q s rest := by
  intro at_ e
  have tail_iff := hps at_ e
  rw [ends_first] at tail_iff ⊢
  rw [List.flatMap_cons, List.mem_append, hp at_ e, tail_iff]
  constructor
  · rintro (⟨s, rest, hRest, shape, he⟩ | ⟨s, rest, hRest, shape, he⟩)
    · exact ⟨s, rest, hRest, .inl shape, he⟩
    · exact ⟨s, rest, hRest, .inr shape, he⟩
  · rintro ⟨s, rest, hRest, shape | shape, he⟩
    · exact .inl ⟨s, rest, hRest, shape, he⟩
    · exact .inr ⟨s, rest, hRest, shape, he⟩

theorem reads_word (w : String) : (word w).Reads fun s _ => Spells w.toList s :=
  fun _ _ => mem_ends_word

theorem reads_words (ws : List String) :
    (words ws).Reads fun s _ => ∃ w ∈ ws, Spells w.toList s := by
  induction ws with
  | nil => exact reads_none.congr fun s _ => by simp
  | cons w ws ih => exact ((reads_word w).first_cons ih).congr fun s _ => by simp

/-- **A pattern for whole texts** matches those of its shape; a line feed may follow them. -/
theorem matchesStart_whole_iff {p : Pattern} {P : List CodePoint → List CodePoint → Prop}
    (hp : p.Reads P) {s : Text} :
    (all [start, p, stop]).matchesStart s = true ↔
      ∃ read rest, s.points = read ++ rest ∧ P read rest ∧ (rest = [] ∨ rest = [.char '\n']) := by
  rw [matchesStart_start_iff]
  constructor
  · rintro ⟨e, he⟩
    obtain ⟨m, hm, he⟩ := mem_ends_all_cons.mp he
    obtain ⟨read, rest, hRest, shape, rfl⟩ := (hp _ m).mp hm
    obtain ⟨last, -⟩ := mem_ends_stop.mp he
    rw [rest_skip_append _ hRest] at last
    exact ⟨read, rest, hRest, shape, last⟩
  · rintro ⟨read, rest, hRest, shape, last⟩
    have at_end := rest_skip_append (Cursor.ofChars s.points) hRest
    refine ⟨_, mem_ends_all_cons.mpr
      ⟨_, (hp _ _).mpr ⟨read, rest, hRest, shape, rfl⟩, mem_ends_stop.mpr ⟨?_, rfl⟩⟩⟩
    rwa [at_end]

end Pattern

end SuiteAudit.Text

namespace SuiteAudit.Rules

open Text Text.Pattern

/-! ### Numerals -/

/-- A row of digits, at least one. -/
def DigitRow (s : List CodePoint) : Prop :=
  s ≠ [] ∧ ∀ c ∈ s, isDigit c = true

/-- A sign, or nothing. -/
def OptionalSign (s : List CodePoint) : Prop :=
  s = [] ∨ ∃ c, s = [c] ∧ (c = .char '-' ∨ c = .char '+')

/-- The part of a numeral from its point on, or nothing. -/
def Fraction (s : List CodePoint) : Prop :=
  s = [] ∨ ∃ digits, s = .char '.' :: digits ∧ DigitRow digits

/-- The part of a numeral from its exponent on, or nothing. -/
def Exponent (s : List CodePoint) : Prop :=
  s = [] ∨ ∃ mark sign digits, s = mark :: (sign ++ digits) ∧
    (mark = .char 'e' ∨ mark = .char 'E') ∧ OptionalSign sign ∧ DigitRow digits

/-- The mark of a large number, or nothing. -/
def LargeMark (s : List CodePoint) : Prop :=
  s = [] ∨ s = [.char 'n'] ∨ s = [.char 'N']

/-- **A plain numeral** in its parts. -/
structure PlainNumeral where
  sign : List CodePoint
  lead : CodePoint
  whole : List CodePoint
  fraction : List CodePoint
  exponent : List CodePoint
  mark : List CodePoint
  sign_shape : OptionalSign sign
  lead_isDigit : isDigit lead = true
  whole_shape : ∀ c ∈ whole, isDigit c = true ∨ c = .char '_'
  fraction_shape : Fraction fraction
  exponent_shape : Exponent exponent
  mark_shape : LargeMark mark

namespace PlainNumeral

/-- What is written behind the whole part. -/
def afterWhole (n : PlainNumeral) : List CodePoint :=
  n.fraction ++ (n.exponent ++ n.mark)

/-- The numeral as it is written. -/
def text (n : PlainNumeral) : List CodePoint :=
  n.sign ++ n.lead :: (n.whole ++ n.afterWhole)

end PlainNumeral

/-- A digit is none of the other characters of numerals. -/
theorem ne_of_isDigit {c d : CodePoint} (h : isDigit c = true) (hd : isDigit d = false) :
    c ≠ d := by
  rintro rfl
  rw [h] at hd
  cases hd

/-! ### The pattern for numbers -/

/-- Capitals are 32 places before their letters. -/
theorem toLower_eq_iff {letter capital d : Char} (upper : capital.isUpper = true)
    (h : letter.toNat = capital.toNat + 32) : d.toLower = letter ↔ d = letter ∨ d = capital := by
  have bounds (c : Char) : c.val ≥ 'A'.val ∧ c.val ≤ 'Z'.val ↔ 65 ≤ c.toNat ∧ c.toNat ≤ 90 :=
    and_congr UInt32.le_iff_toNat_le UInt32.le_iff_toNat_le
  have of_capital := (bounds capital).mp (of_decide_eq_true upper)
  rw [← Char.toNat_inj, ← Char.toNat_inj, ← Char.toNat_inj]
  by_cases hd : d.val ≥ 'A'.val ∧ d.val ≤ 'Z'.val
  · have of_d := (bounds d).mp hd
    have next_eq : d.toLower.toNat = d.toNat + 32 := by
      have moved : d.toLower.val = d.val + ('a'.val - 'A'.val) := congrArg Char.val (dif_pos hd)
      rw [← Char.toNat_val, moved, UInt32.toNat_add]
      show (d.toNat + 32) % 2 ^ 32 = _
      omega
    omega
  · have unchanged : d.toLower = d := dif_neg hd
    rw [bounds] at hd
    rw [unchanged]
    omega

/-- A word of one letter, three letters apart, is that letter or its capital. -/
theorem spells_letter_iff {letter capital : Char} (plain : letter ∉ ['s', 'k', 'i'])
    (upper : capital.isUpper = true) (h : letter.toNat = capital.toNat + 32) {s : List CodePoint} :
    Spells [letter] s ↔ s = [.char letter] ∨ s = [.char capital] := by
  simp only [List.mem_cons, List.not_mem_nil, or_false, not_or] at plain
  have same_iff (c : CodePoint) :
      c.isIn (sameLetter letter) = true ↔ c = .char letter ∨ c = .char capital := by
    cases c with
    | surrogate s => simp [CodePoint.isIn]
    | char d =>
      simp only [CodePoint.isIn, sameLetter, Bool.or_eq_true, Bool.and_eq_true, beq_iff_eq,
        plain.1, plain.2.1, plain.2.2, false_and, or_false, CodePoint.char.injEq,
        toLower_eq_iff upper h, or_self_left]
  rw [Spells, List.forall₂_cons_left_iff]
  simp only [List.forall₂_nil_left_iff, same_iff]
  constructor
  · rintro ⟨c, _, rfl | rfl, rfl, rfl⟩
    · exact .inl rfl
    · exact .inr rfl
  · rintro (rfl | rfl)
    · exact ⟨_, [], .inl rfl, rfl, rfl⟩
    · exact ⟨_, [], .inr rfl, rfl, rfl⟩

/-- **Where no digits go on**: the text begins neither with a digit nor with a low line. -/
def Clear (s : List CodePoint) : Prop :=
  ∀ c ∈ s.head?, isDigit c = false ∧ c ≠ .char '_'

theorem clear_nil : Clear [] :=
  nofun

theorem Clear.append {s t : List CodePoint} (hs : Clear s) (ht : Clear t) : Clear (s ++ t) := by
  cases s with
  | nil => exact ht
  | cons c s => exact hs

theorem clear_cons {c : CodePoint} {s : List CodePoint} (digit : isDigit c = false)
    (low_line : c ≠ .char '_') : Clear (c :: s) := by
  intro d hd
  obtain rfl := Option.some.inj hd
  exact ⟨digit, low_line⟩

theorem Fraction.clear {s : List CodePoint} (h : Fraction s) : Clear s := by
  rcases h with rfl | ⟨digits, rfl, -⟩
  · exact clear_nil
  · exact clear_cons (by decide) (by decide)

theorem Exponent.clear {s : List CodePoint} (h : Exponent s) : Clear s := by
  rcases h with rfl | ⟨mark, sign, digits, rfl, rfl | rfl, -⟩
  · exact clear_nil
  · exact clear_cons (by decide) (by decide)
  · exact clear_cons (by decide) (by decide)

theorem LargeMark.clear {s : List CodePoint} (h : LargeMark s) : Clear s := by
  rcases h with rfl | rfl | rfl
  · exact clear_nil
  · exact clear_cons (by decide) (by decide)
  · exact clear_cons (by decide) (by decide)

theorem reads_sign :
    (opt (oneOf fun c => c == '-' || c == '+')).Reads fun s _ => OptionalSign s :=
  (reads_oneOf _).opt.congr fun s _ => by simp [OptionalSign]

theorem reads_digits :
    digits.Reads fun s rest => DigitRow s ∧ ∀ c ∈ rest.head?, isDigit c = false := by
  refine ((reads_oneOf isDigit).seq (reads_run isDigit)).congr fun s rest => ?_
  constructor
  · rintro ⟨_, more, rfl, ⟨c, rfl, hc⟩, all_digits, ends⟩
    refine ⟨⟨by simp, ?_⟩, ends⟩
    rw [List.singleton_append, List.forall_mem_cons]
    exact ⟨hc, all_digits⟩
  · rintro ⟨⟨some_digit, all_digits⟩, ends⟩
    obtain ⟨c, more, rfl⟩ := List.exists_cons_of_ne_nil some_digit
    rw [List.forall_mem_cons] at all_digits
    exact ⟨[c], more, rfl, ⟨c, rfl, all_digits.1⟩, all_digits.2, ends⟩

theorem reads_fraction :
    (opt (seq (char '.') digits)).Reads fun s rest =>
      s = [] ∨ (∃ ds, s = .char '.' :: ds ∧ DigitRow ds) ∧ ∀ c ∈ rest.head?, isDigit c = false := by
  refine ((reads_oneOf _).seq reads_digits).opt.congr fun s rest => or_congr_right ?_
  constructor
  · rintro ⟨_, ds, rfl, ⟨c, rfl, hc⟩, row, ends⟩
    obtain rfl : c = .char '.' := beq_iff_eq.mp hc
    exact ⟨⟨ds, rfl, row⟩, ends⟩
  · rintro ⟨⟨ds, rfl, row⟩, ends⟩
    exact ⟨_, ds, rfl, ⟨_, rfl, beq_iff_eq.mpr rfl⟩, row, ends⟩

theorem reads_exponent :
    (opt (all [word "e", opt (oneOf fun c => c == '-' || c == '+'), digits])).Reads fun s rest =>
      s = [] ∨ (∃ mark sign ds, s = mark :: (sign ++ ds) ∧
        (mark = .char 'e' ∨ mark = .char 'E') ∧ OptionalSign sign ∧ DigitRow ds) ∧
          ∀ c ∈ rest.head?, isDigit c = false := by
  refine ((reads_word "e").all_cons (reads_sign.all_cons (reads_digits.all_cons
    reads_nil))).opt.congr fun s rest => or_congr_right ?_
  have mark_iff {s : List CodePoint} : Spells "e".toList s ↔ s = [.char 'e'] ∨ s = [.char 'E'] :=
    spells_letter_iff (by decide) (by decide) (by decide)
  constructor
  · rintro ⟨_, _, rfl, hMark, sign, _, rfl, hSign, ds, _, rfl, ⟨row, ends⟩, rfl⟩
    rw [List.append_nil]
    rcases mark_iff.mp hMark with rfl | rfl
    · exact ⟨⟨_, sign, ds, rfl, .inl rfl, hSign, row⟩, ends⟩
    · exact ⟨⟨_, sign, ds, rfl, .inr rfl, hSign, row⟩, ends⟩
  · rintro ⟨⟨mark, sign, ds, rfl, hMark, hSign, row⟩, ends⟩
    refine ⟨[mark], _, rfl, mark_iff.mpr ?_, sign, ds, rfl, hSign, ds, [], by simp, ⟨row, ends⟩,
      rfl⟩
    rcases hMark with rfl | rfl
    · exact .inl rfl
    · exact .inr rfl

theorem reads_largeMark : (opt (word "n")).Reads fun s _ => LargeMark s :=
  (reads_word "n").opt.congr fun _ _ =>
    or_congr_right (spells_letter_iff (by decide) (by decide) (by decide))

/-- **The pattern for numbers reads plain numerals**, where nothing follows. -/
theorem exists_reads_numberPattern :
    ∃ shape, numberPattern.Reads shape ∧ ∀ s, shape s [] ↔ ∃ n : PlainNumeral, n.text = s := by
  refine ⟨_, reads_sign.all_cons ((reads_oneOf _).all_cons ((reads_run _).all_cons
    (reads_fraction.all_cons (reads_exponent.all_cons (reads_largeMark.all_cons reads_nil))))),
    fun s => ?_⟩
  constructor
  · rintro ⟨sign, _, rfl, hSign, _, _, rfl, ⟨lead, rfl, hLead⟩, whole, _, rfl, ⟨hWhole, -⟩,
      fraction, _, rfl, hFraction, exponent, _, rfl, hExponent, mark, _, rfl, hMark, rfl⟩
    refine ⟨{ sign, lead, whole, fraction, exponent, mark, sign_shape := hSign
              lead_isDigit := hLead, whole_shape := fun c hc => ?_
              fraction_shape := hFraction.imp_right And.left
              exponent_shape := hExponent.imp_right And.left, mark_shape := hMark }, ?_⟩
    · simpa using hWhole c hc
    · simp [PlainNumeral.text, PlainNumeral.afterWhole]
  · rintro ⟨n, rfl⟩
    have after_exponent := n.mark_shape.clear
    have after_fraction := n.exponent_shape.clear.append after_exponent
    have after_whole := n.fraction_shape.clear.append after_fraction
    refine ⟨n.sign, _, rfl, n.sign_shape, [n.lead], _, rfl, ⟨_, rfl, n.lead_isDigit⟩, n.whole, _,
      rfl, ⟨fun c hc => ?_, fun c hc => ?_⟩, n.fraction, _, rfl, ?_, n.exponent, _, rfl, ?_, n.mark,
      [], (List.append_nil _).symm, n.mark_shape, rfl⟩
    · simpa using n.whole_shape c hc
    · rw [List.append_nil] at hc
      simpa using after_whole c hc
    · refine n.fraction_shape.imp_right fun h => ⟨h, fun c hc => ?_⟩
      rw [List.append_nil] at hc
      exact (after_fraction c hc).1
    · refine n.exponent_shape.imp_right fun h => ⟨h, fun c hc => ?_⟩
      rw [List.append_nil] at hc
      exact (after_exponent c hc).1

/-! ### Their values -/

/-- **A row of digits is read to its end.** -/
theorem exists_takeDigits {s rest : List CodePoint} (digits : ∀ c ∈ s, isDigit c = true)
    (clear : Clear rest) :
    ∃ values, Decimal.takeDigits (s ++ rest) = (values, rest) ∧ values.length = s.length := by
  induction s with
  | nil =>
    refine ⟨[], ?_, rfl⟩
    rw [List.nil_append]
    cases rest with
    | nil => rfl
    | cons c rest =>
      have no_digit : digit? c = none := by
        have := (clear c rfl).1
        rwa [isDigit, Option.isSome_eq_false_iff, Option.isNone_iff_eq_none] at this
      unfold Decimal.takeDigits
      split <;> simp_all
  | cons c s ih =>
    rw [List.forall_mem_cons] at digits
    obtain ⟨values, hValues, length_eq⟩ := ih digits.2
    obtain ⟨v, hv⟩ := Option.isSome_iff_exists.mp digits.1
    have low_line : c ≠ .char '_' := ne_of_isDigit digits.1 (by decide)
    have next_clear : ∀ d more, s ++ rest ≠ .char '_' :: d :: more := by
      intro d more same
      cases s with
      | nil =>
        rw [List.nil_append] at same
        rw [same] at clear
        exact (clear _ rfl).2 rfl
      | cons e s =>
        rw [List.forall_mem_cons] at digits
        exact ne_of_isDigit digits.2.1 (by decide) (List.cons.inj same).1
    refine ⟨v :: values, ?_, by simp [length_eq]⟩
    rw [List.cons_append]
    unfold Decimal.takeDigits
    split
    · next h => exact absurd (List.cons.inj h).1 low_line
    · next h => exact absurd (List.cons.inj h).2 (next_clear _ _)
    · next h =>
      obtain ⟨rfl, rfl⟩ := List.cons.inj h
      rw [hv, hValues]
    · next h => cases h

theorem takeSign_of_isDigit {c : CodePoint} {s : List CodePoint} (h : isDigit c = true) :
    Decimal.takeSign (c :: s) = (false, c :: s) := by
  have minus : c ≠ .char '-' := ne_of_isDigit h (by decide)
  have plus : c ≠ .char '+' := ne_of_isDigit h (by decide)
  unfold Decimal.takeSign
  split
  · next same => exact absurd (List.cons.inj same).1 minus
  · next same => exact absurd (List.cons.inj same).1 plus
  · rfl

/-- A sign is read off the row of digits behind it. -/
theorem exists_takeSign {sign digits : List CodePoint} (hSign : OptionalSign sign)
    (row : DigitRow digits) (rest : List CodePoint) :
    ∃ negative, Decimal.takeSign (sign ++ (digits ++ rest)) = (negative, digits ++ rest) := by
  rcases hSign with rfl | ⟨_, rfl, rfl | rfl⟩
  · obtain ⟨c, more, rfl⟩ := List.exists_cons_of_ne_nil row.1
    exact ⟨false, takeSign_of_isDigit (row.2 c List.mem_cons_self)⟩
  · exact ⟨true, rfl⟩
  · exact ⟨false, rfl⟩

theorem exists_takeExponent {s : List CodePoint} (h : Exponent s) :
    ∃ e, Decimal.takeExponent s = (e, []) := by
  rcases h with rfl | ⟨mark, sign, digits, rfl, hMark, hSign, row⟩
  · exact ⟨0, rfl⟩
  · obtain ⟨negative, hTakeSign⟩ := exists_takeSign hSign row []
    obtain ⟨values, hTake, length_eq⟩ := exists_takeDigits row.2 clear_nil
    obtain ⟨v, vs, rfl⟩ := List.exists_cons_of_length_pos
      (length_eq ▸ List.length_pos_of_ne_nil row.1)
    have marks : (mark == .char 'e' || mark == .char 'E') = true := by
      rcases hMark with rfl | rfl <;> rfl
    rw [List.append_nil] at hTakeSign hTake
    refine ⟨if negative then -Int.ofNat (Decimal.ofDigits (v :: vs))
      else Int.ofNat (Decimal.ofDigits (v :: vs)), ?_⟩
    rw [Decimal.takeExponent, if_pos marks, hTakeSign]
    dsimp only
    rw [hTake]

/-- Digits, a fraction and an exponent have a magnitude. -/
theorem isSome_readMagnitude? {whole fraction exponent : List CodePoint} (row : DigitRow whole)
    (hFraction : Fraction fraction) (hExponent : Exponent exponent) :
    (Decimal.readMagnitude? (whole ++ (fraction ++ exponent))).isSome = true := by
  obtain ⟨values, hTake, length_eq⟩ :=
    exists_takeDigits row.2 (hFraction.clear.append hExponent.clear)
  obtain ⟨v, vs, rfl⟩ := List.exists_cons_of_length_pos
    (length_eq ▸ List.length_pos_of_ne_nil row.1)
  obtain ⟨e, hTakeExponent⟩ := exists_takeExponent hExponent
  unfold Decimal.readMagnitude?
  rw [hTake]
  dsimp only
  rcases hFraction with rfl | ⟨digits, rfl, rowFraction⟩
  · have no_point : ∀ rest, exponent ≠ .char '.' :: rest := by
      rintro rest rfl
      rcases hExponent with h | ⟨mark, _, _, h, rfl | rfl, -⟩
      · cases h
      · cases h
      · cases h
    rw [List.nil_append]
    split
    · next rest => exact absurd rfl (no_point rest)
    · rw [hTakeExponent]
      rfl
  · obtain ⟨more, hMore, -⟩ := exists_takeDigits rowFraction.2 hExponent.clear
    split
    · next rest same =>
      obtain rfl : digits ++ exponent = rest := (List.cons.inj same).2
      rw [hMore]
      dsimp only
      rw [hTakeExponent]
      rfl
    · next other => exact absurd rfl (other (digits ++ exponent))

/-- **Digits are no blanks.** -/
theorem isBlank_of_isDigit {c : CodePoint} (h : isDigit c = true) : isBlank c = false := by
  have apart : ∀ first ∈ Table.zeros, ∀ k < 10,
      ∀ blanks ∈ [(0x9, 0xD), (0x1C, 0x20), (0x85, 0x85), (0xA0, 0xA0), (0x1680, 0x1680),
        (0x2000, 0x200A), (0x2028, 0x2029), (0x202F, 0x202F), (0x205F, 0x205F), (0x3000, 0x3000)],
        ¬(blanks.1 ≤ first + k ∧ first + k ≤ blanks.2) := by
    decide +kernel
  have in_script : ∃ first ∈ Table.zeros, first ≤ c.code ∧ c.code < first + 10 := by
    unfold isDigit digit? at h
    dsimp only at h
    split at h
    · split at h
      · next ascii =>
        rw [Bool.and_eq_true, decide_eq_true_eq, decide_eq_true_eq] at ascii
        exact ⟨0x30, by decide, ascii⟩
      · cases h
    · rw [Option.isSome_map, List.find?_isSome] at h
      obtain ⟨first, hFirst, near⟩ := h
      rw [Bool.and_eq_true, decide_eq_true_eq, decide_eq_true_eq] at near
      exact ⟨first, hFirst, near⟩
  obtain ⟨first, hFirst, first_le, lt⟩ := in_script
  have outside := apart first hFirst (c.code - first) (by omega)
  rw [Nat.add_sub_cancel' first_le] at outside
  simp only [List.forall_mem_cons] at outside
  simp only [isBlank, Bool.or_eq_false_iff, Bool.and_eq_false_iff, decide_eq_false_iff_not,
    beq_eq_false_iff_ne]
  omega

/-- The characters of numerals besides digits, low lines and the mark of a large number. -/
def numeralSigns : List CodePoint :=
  [.char '-', .char '+', .char '.', .char 'e', .char 'E']

/-- The letters that announce a base other than ten. -/
def baseMarks : List CodePoint :=
  [.char 'x', .char 'X', .char 'o', .char 'O', .char 'b', .char 'B']

namespace PlainNumeral

variable (n : PlainNumeral)

/-- The numeral without its low lines and without the mark of a large number. -/
def bare : List CodePoint :=
  n.sign ++ ((n.lead :: n.whole.filter (· != .char '_')) ++ (n.fraction ++ n.exponent))

theorem digitRow_whole : DigitRow (n.lead :: n.whole.filter (· != .char '_')) := by
  refine ⟨List.cons_ne_nil _ _, ?_⟩
  rw [List.forall_mem_cons]
  refine ⟨n.lead_isDigit, fun c hc => ?_⟩
  obtain ⟨hMem, not_low⟩ := List.mem_filter.mp hc
  exact (n.whole_shape c hMem).resolve_right (by simpa using not_low)

theorem isDigit_or_mem_of_mem_bare {c : CodePoint} (h : c ∈ n.bare) :
    isDigit c = true ∨ c ∈ numeralSigns := by
  rw [bare, List.mem_append, List.mem_append, List.mem_append] at h
  have of_sign {sign : List CodePoint} (hSign : OptionalSign sign) (hc : c ∈ sign) :
      c ∈ numeralSigns := by
    rcases hSign with rfl | ⟨_, rfl, rfl | rfl⟩
    · cases hc
    · rw [List.mem_singleton.mp hc]; decide
    · rw [List.mem_singleton.mp hc]; decide
  rcases h with hSign | hWhole | hFraction | hExponent
  · exact .inr (of_sign n.sign_shape hSign)
  · exact .inl (n.digitRow_whole.2 c hWhole)
  · rcases n.fraction_shape with h | ⟨digits, h, row⟩
    · rw [h] at hFraction
      cases hFraction
    · rw [h, List.mem_cons] at hFraction
      rcases hFraction with rfl | hc
      · exact .inr (by decide)
      · exact .inl (row.2 c hc)
  · rcases n.exponent_shape with h | ⟨mark, sign, digits, h, hMark, hSign, row⟩
    · rw [h] at hExponent
      cases hExponent
    · rw [h, List.mem_cons, List.mem_append] at hExponent
      rcases hExponent with rfl | hc | hc
      · rcases hMark with rfl | rfl
        · exact .inr (by decide)
        · exact .inr (by decide)
      · exact .inr (of_sign hSign hc)
      · exact .inl (row.2 c hc)

/-- What else is a character of the numeral is a low line or the mark of a large number. -/
theorem ne_of_mem_bare {c d : CodePoint} (h : c ∈ n.bare) (digit : isDigit d = false)
    (sign : d ∉ numeralSigns) : c ≠ d := by
  rintro rfl
  rcases n.isDigit_or_mem_of_mem_bare h with hDigit | hSign
  · rw [hDigit] at digit
    cases digit
  · exact sign hSign

theorem isBlank_of_mem_bare {c : CodePoint} (h : c ∈ n.bare) : isBlank c = false := by
  have signs : ∀ c ∈ numeralSigns, isBlank c = false := by decide
  rcases n.isDigit_or_mem_of_mem_bare h with hDigit | hSign
  · exact isBlank_of_isDigit hDigit
  · exact signs c hSign

theorem filter_text : n.text.filter (· != .char '_') = n.bare ++ n.mark := by
  have kept {s : List CodePoint} (h : ∀ c ∈ s, c ∈ n.bare) :
      s.filter (· != .char '_') = s :=
    List.filter_eq_self.mpr fun c hc =>
      bne_iff_ne.mpr (n.ne_of_mem_bare (h c hc) (by decide) (by decide))
  have lead_kept : (n.lead != .char '_') = true :=
    bne_iff_ne.mpr (n.ne_of_mem_bare (by simp [bare]) (by decide) (by decide))
  have mark_kept : n.mark.filter (· != .char '_') = n.mark := by
    rcases n.mark_shape with h | h | h <;> rw [h] <;> rfl
  rw [text, afterWhole, bare, List.filter_append, List.filter_cons, if_pos lead_kept,
    List.filter_append, List.filter_append, List.filter_append, mark_kept,
    kept (s := n.sign) (by simp +contextual [bare]),
    kept (s := n.fraction) (by simp +contextual [bare]),
    kept (s := n.exponent) (by simp +contextual [bare])]
  simp

/-- **The numeral without its mark** is what is left of the text in source code. -/
theorem rdropWhile_filter_text (small : n.mark ≠ [.char 'N']) :
    (n.text.filter (· != .char '_')).rdropWhile (· == .char 'n') = n.bare := by
  have bare_kept : n.bare.rdropWhile (· == .char 'n') = n.bare := by
    rw [List.rdropWhile_eq_self_iff]
    intro ne_nil
    rw [beq_iff_eq]
    exact n.ne_of_mem_bare (List.getLast_mem ne_nil) (by decide) (by decide)
  rw [filter_text]
  rcases n.mark_shape with h | h | h
  · rw [h, List.append_nil, bare_kept]
  · rw [h, List.rdropWhile_concat_pos _ _ _ (by decide), bare_kept]
  · exact absurd h small

theorem stripBy_bare : Chars.stripBy Decimal.isMargin n.bare = n.bare := by
  have no_margin : ∀ c ∈ n.bare, ¬ Decimal.isMargin c = true := by
    intro c hc
    rw [Decimal.isMargin, n.isBlank_of_mem_bare hc, Bool.false_and]
    exact Bool.false_ne_true
  have front : n.bare.dropWhile Decimal.isMargin = n.bare := by
    rw [List.dropWhile_eq_self_iff]
    exact fun lt => no_margin _ (List.getElem_mem lt)
  have back : n.bare.rdropWhile Decimal.isMargin = n.bare := by
    rw [List.rdropWhile_eq_self_iff]
    exact fun ne_nil => no_margin _ (List.getLast_mem ne_nil)
  rw [Chars.stripBy, front]
  exact back

theorem isSome_readFloat? {s : Text} (h : s.points = n.bare) :
    (Decimal.readFloat? s).isSome = true := by
  obtain ⟨negative, hTake⟩ := exists_takeSign n.sign_shape n.digitRow_whole
    (n.fraction ++ n.exponent)
  have magnitude := isSome_readMagnitude? n.digitRow_whole n.fraction_shape n.exponent_shape
  unfold Decimal.readFloat?
  rw [Decimal.withoutMargins, h, stripBy_bare, bare, hTake]
  dsimp only
  rw [Option.isSome_map]
  split
  · rfl
  · split
    · rfl
    · exact magnitude

/-- **A plain numeral has a value** in source code, unless its mark is a capital. -/
theorem exists_numeralValue (small : n.mark ≠ [.char 'N']) {source : String}
    (h : (Text.ofString source).points = n.text) :
    ∃ x, Syntax.numeralValue source = .ok (some x) := by
  have same (d : Char) : (fun c => c == CodePoint.char d) ∘ CodePoint.char = (· == d) := by
    funext c
    rw [Function.comp_apply, Bool.eq_iff_iff, beq_iff_eq, beq_iff_eq, CodePoint.char.injEq]
  have left : (((source.toList.filter (· != '_')).reverse.dropWhile (· == 'n')).reverse).map
      CodePoint.char = n.bare := by
    rw [← n.rdropWhile_filter_text small, ← h]
    show _ = ((source.toList.map CodePoint.char).filter
      fun c => !(c == CodePoint.char '_')).rdropWhile _
    have low_line : (fun c => !(c == CodePoint.char '_')) ∘ CodePoint.char = (· != '_') := by
      funext c
      exact congrArg not (congrFun (same '_') c)
    rw [List.filter_map, low_line, List.rdropWhile, ← List.map_reverse, List.dropWhile_map, same,
      ← List.map_reverse]
  unfold Syntax.numeralValue
  dsimp only
  generalize ((source.toList.filter (· != '_')).reverse.dropWhile (· == 'n')).reverse = chars
    at left ⊢
  have value : (Decimal.readFloat? (String.ofList chars)).isSome = true := by
    refine n.isSome_readFloat? ?_
    show (String.ofList chars).toList.map CodePoint.char = _
    rw [String.toList_ofList, left]
  have no_base : ∀ mark ∈ chars, Syntax.baseOf? mark = none := by
    intro mark hMark
    have in_bare : .char mark ∈ n.bare := left ▸ List.mem_map_of_mem hMark
    have other : ∀ d ∈ baseMarks, .char mark ≠ d := by
      have outside : ∀ d ∈ baseMarks, isDigit d = false ∧ d ∉ numeralSigns := by decide
      exact fun d hd => n.ne_of_mem_bare in_bare (outside d hd).1 (outside d hd).2
    unfold Syntax.baseOf?
    split
    case h_7 => rfl
    all_goals exact absurd rfl (other _ (by decide))
  obtain ⟨x, hx⟩ := Option.isSome_iff_exists.mp value
  refine ⟨x, ?_⟩
  split
  · next mark digits =>
    rw [no_base mark (by simp), hx]
  · rw [hx]

end PlainNumeral

end SuiteAudit.Rules
