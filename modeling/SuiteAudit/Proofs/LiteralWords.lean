import Mathlib.Data.List.TakeWhile
import SuiteAudit.Proofs.Findings
import SuiteAudit.Proofs.PatternEnds
import SuiteAudit.Rule.Assertions

/-!
# Words that are literals

The rules on weak, trivial and tautological assertions look at one assertion at a time
(`run_eq_flatMap_alone`). A weak assertion is neither trivial nor tautological. But a text can be
that of a literal and that of a name at once: the four words that stand for values are
(`isLiteralText_and_isIdentifierText`), and nothing else is. So an assertion that compares one of
these words with itself is found by two rules, of two categories (`charged_in_two_categories`).
-/

namespace SuiteAudit.Text

/-! ### Words in any case -/

/-- **A text spells a word** of lower-case letters, each of them in some case. -/
def Spells (letters : List Char) (s : List CodePoint) : Prop :=
  List.Forall₂ (fun letter c => c.isIn (Pattern.sameLetter letter) = true) letters s

/-- **A word ends after letters that spell it.** -/
theorem Pattern.mem_ends_word {word : String} {at_ e : Cursor} :
    e ∈ (Pattern.word word).ends at_ ↔
      ∃ s rest, at_.rest = s ++ rest ∧ Spells word.toList s ∧ e = at_.skip s.length := by
  rw [Pattern.word]
  induction word.toList generalizing at_ with
  | nil => simp [Spells, all, ends, Cursor.skip]
  | cons letter letters ih =>
    rw [List.map_cons, mem_ends_all_cons]
    constructor
    · rintro ⟨m, hm, he⟩
      obtain ⟨c, rest, hRest, same, rfl⟩ := mem_ends_oneOf.mp hm
      obtain ⟨s, rest', hRest', spells, rfl⟩ := ih.mp he
      rw [Cursor.rest_skip, hRest] at hRest'
      have rest_eq : rest = s ++ rest' := hRest'
      refine ⟨c :: s, rest', by rw [hRest, rest_eq, List.cons_append], .cons same spells, ?_⟩
      rw [Cursor.skip_skip, List.length_cons, Nat.add_comm]
    · rintro ⟨s, rest, hRest, spells, rfl⟩
      cases spells with
      | @cons _ c _ s same spells =>
        refine ⟨at_.skip 1, mem_ends_oneOf.mpr ⟨c, s ++ rest, hRest, same, rfl⟩,
          ih.mpr ⟨s, rest, ?_, spells, ?_⟩⟩
        · rw [Cursor.rest_skip, hRest, List.cons_append, List.drop_one, List.tail_cons]
        · rw [Cursor.skip_skip, List.length_cons, Nat.add_comm]

/-- The codes of ASCII letters. -/
theorem code_of_isAsciiLetter {c : CodePoint} (h : isAsciiLetter c = true) :
    65 ≤ c.code ∧ c.code ≤ 90 ∨ 97 ≤ c.code ∧ c.code ≤ 122 := by
  cases c with
  | surrogate s => cases h
  | char c =>
    have letter : (c.isUpper || c.isLower) = true := h
    rcases Bool.or_eq_true_iff.mp letter with upper | lower
    · exact .inl (of_decide_eq_true upper)
    · obtain ⟨from_a, to_z⟩ := Bool.and_eq_true_iff.mp lower
      exact .inr ⟨of_decide_eq_true from_a, of_decide_eq_true to_z⟩

/-- ASCII letters are word characters. -/
theorem isWord_of_isAsciiLetter {c : CodePoint} (h : isAsciiLetter c = true) : isWord c = true := by
  have range := code_of_isAsciiLetter h
  cases c with
  | surrogate s => cases h
  | char c =>
    have letter : c.isAlpha = true := h
    have below : c.toNat < 0x80 := by
      have : 65 ≤ c.toNat ∧ c.toNat ≤ 90 ∨ 97 ≤ c.toNat ∧ c.toNat ≤ 122 := range
      omega
    show (if c.toNat < 0x80 then c.isAlphanum || c == '_' else _) = true
    rw [if_pos below, Char.isAlphanum, letter]
    rfl

/-- A letter in any case is an ASCII letter or one of four others. -/
theorem isAsciiLetter_of_sameLetter {letter : Char} (h : letter.isLower = true) {c : CodePoint}
    (same : c.isIn (Pattern.sameLetter letter) = true) :
    isAsciiLetter c = true ∨
      letter ∈ ['s', 'k', 'i'] ∧ ∃ d ∈ ['\u017f', '\u212a', '\u0130', '\u0131'], c = .char d := by
  cases c with
  | surrogate s => cases same
  | char c =>
    have alpha_letter : letter.isAlpha = true := Bool.or_eq_true_iff.mpr (.inr h)
    simp only [CodePoint.isIn, Pattern.sameLetter, Bool.or_eq_true, Bool.and_eq_true,
      beq_iff_eq] at same
    rcases same with (((rfl | lower) | ⟨rfl, rfl⟩) | ⟨rfl, rfl⟩) | ⟨rfl, rfl | rfl⟩
    · exact .inl alpha_letter
    · refine .inl ?_
      show c.isAlpha = true
      by_cases upper : c.isUpper = true
      · exact Bool.or_eq_true_iff.mpr (.inl upper)
      · have unchanged : c.toLower = c := dif_neg fun h => upper (decide_eq_true h)
        rwa [← unchanged, lower]
    all_goals simp

/-- **A letter in any case is a word character.** -/
theorem isWord_of_sameLetter {letter : Char} (h : letter.isLower = true) {c : CodePoint}
    (same : c.isIn (Pattern.sameLetter letter) = true) : isWord c = true := by
  have beyond : ∀ d ∈ ['\u017f', '\u212a', '\u0130', '\u0131'], isWord (.char d) = true := by
    simp only [List.forall_mem_cons]
    exact ⟨by decide +kernel, by decide +kernel, by decide +kernel, by decide +kernel, nofun⟩
  rcases isAsciiLetter_of_sameLetter h same with hAscii | ⟨-, d, hd, rfl⟩
  · exact isWord_of_isAsciiLetter hAscii
  · exact beyond d hd

theorem isWord_of_spells {letters : List Char} (lower : ∀ letter ∈ letters, letter.isLower = true)
    {s : List CodePoint} (h : Spells letters s) : ∀ c ∈ s, isWord c = true := by
  induction h with
  | nil => simp
  | cons same _ ih =>
    rw [List.forall_mem_cons] at lower ⊢
    exact ⟨isWord_of_sameLetter lower.1 same, ih lower.2⟩

/-- No blank ends a stripped text. -/
theorem isBlank_of_getLast?_strip {s : Text} {c : CodePoint}
    (h : (strip s).points.getLast? = some c) : isBlank c = false := by
  have last : ((Chars.stripLeft s.points).reverse.dropWhile isBlank).head? = some c := by
    rw [← List.getLast?_reverse]
    exact h
  have := List.head?_dropWhile_not isBlank (Chars.stripLeft s.points).reverse
  rw [last] at this
  exact this

end SuiteAudit.Text

namespace SuiteAudit.Rules

open Text Text.Pattern

/-! ### Literals and names -/

/-- The words that stand for values. -/
def literalWords : List String :=
  ["true", "false", "null", "undefined"]

/-- Whether a name can start with a character. -/
def isNameStart (c : CodePoint) : Bool :=
  isAsciiLetter c || c == '_' || c == '$'

/-- Digits start no name. -/
theorem isNameStart_of_isDigit {c : CodePoint} (h : isDigit c = true) : isNameStart c = false := by
  have beyond : isDigit c = true → ¬ (58 ≤ c.code ∧ c.code < 0x80) ∧ c.code ≠ 36 := by
    unfold isDigit digit?
    dsimp only
    split
    · split
      · next ascii =>
        rw [Bool.and_eq_true, decide_eq_true_eq, decide_eq_true_eq] at ascii
        omega
      · intro h
        cases h
    · omega
  obtain ⟨not_letter, not_dollar⟩ := beyond h
  rw [isNameStart, Bool.or_eq_false_iff, Bool.or_eq_false_iff, beq_eq_false_iff_ne,
    beq_eq_false_iff_ne, ← Bool.not_eq_true]
  refine ⟨⟨fun hLetter => ?_, ?_⟩, ?_⟩
  · have := code_of_isAsciiLetter hLetter
    omega
  · rintro rfl
    exact not_letter (by decide)
  · rintro rfl
    exact not_dollar rfl

/-- A name starts with a letter, a low line or a dollar sign. -/
theorem exists_isNameStart {s : Text} (h : isIdentifierText s = true) :
    ∃ c rest, (strip s).points = c :: rest ∧ isNameStart c = true := by
  obtain ⟨e, he⟩ := matchesStart_start_iff.mp h
  obtain ⟨m, hm, -⟩ := mem_ends_all_cons.mp he
  obtain ⟨m', hm', -⟩ := List.mem_flatMap.mp hm
  obtain ⟨c, rest, hRest, hc, -⟩ := mem_ends_oneOf.mp hm'
  exact ⟨c, rest, hRest, hc⟩

theorem exists_of_mem_ends_number {at_ e : Cursor} (h : e ∈ numberPattern.ends at_) :
    ∃ c rest, at_.rest = c :: rest ∧ isNameStart c = false := by
  obtain ⟨m, hm, after_sign⟩ := mem_ends_all_cons.mp h
  rcases mem_ends_opt.mp hm with hm | rfl
  · obtain ⟨c, rest, hRest, hc, -⟩ := mem_ends_oneOf.mp hm
    refine ⟨c, rest, hRest, ?_⟩
    rw [Bool.or_eq_true, beq_iff_eq, beq_iff_eq] at hc
    rcases hc with rfl | rfl <;> decide
  · obtain ⟨m', hm', -⟩ := mem_ends_all_cons.mp after_sign
    obtain ⟨c, rest, hRest, hc, -⟩ := mem_ends_oneOf.mp hm'
    exact ⟨c, rest, hRest, isNameStart_of_isDigit hc⟩

theorem exists_of_mem_ends_quoted {quote : CodePoint} {stops : List CodePoint} {at_ e : Cursor}
    (h : e ∈ (quotedPattern quote stops).ends at_) : ∃ rest, at_.rest = quote :: rest := by
  obtain ⟨m, hm, -⟩ := mem_ends_all_cons.mp h
  obtain ⟨c, rest, hRest, hc, -⟩ := mem_ends_oneOf.mp hm
  obtain rfl : c = quote := beq_iff_eq.mp hc
  exact ⟨rest, hRest⟩

/-- A literal that starts as a name does is one of the four words. -/
theorem exists_word_of_mem_ends {at_ e : Cursor} {c : CodePoint} {rest : List CodePoint}
    (hRest : at_.rest = c :: rest) (hc : isNameStart c = true)
    (h : e ∈ (first [numberPattern, quotedPattern '\'' ['\''], quotedPattern '"' ['"'],
      quotedPattern '\x60' ['\x60', '$'], words literalWords]).ends at_) :
    ∃ w ∈ literalWords, e ∈ (word w).ends at_ := by
  have other {d : CodePoint} (hd : isNameStart d = false) : ¬ ∃ rest, at_.rest = d :: rest := by
    rintro ⟨rest', hRest'⟩
    obtain ⟨rfl, -⟩ := List.cons.inj (hRest.symm.trans hRest')
    rw [hc] at hd
    cases hd
  obtain ⟨p, hp, he⟩ := mem_ends_first.mp h
  simp only [List.mem_cons, List.not_mem_nil, or_false] at hp
  rcases hp with rfl | rfl | rfl | rfl | rfl
  · obtain ⟨d, rest', hRest', hd⟩ := exists_of_mem_ends_number he
    exact absurd ⟨rest', hRest'⟩ (other hd)
  · exact absurd (exists_of_mem_ends_quoted he) (other (by decide))
  · exact absurd (exists_of_mem_ends_quoted he) (other (by decide))
  · exact absurd (exists_of_mem_ends_quoted he) (other (by decide))
  · obtain ⟨p, hp, he⟩ := mem_ends_first.mp he
    obtain ⟨w, hw, rfl⟩ := List.mem_map.mp hp
    exact ⟨w, hw, he⟩

/-- Each of the four words is a literal, in whatever case it is written. -/
theorem isLiteralText_of_spells {s : Text} {w : String} (hw : w ∈ literalWords)
    (h : Spells w.toList (strip s).points) : isLiteralText s = true := by
  let whole := Cursor.ofChars (strip s).points
  let behind := whole.skip (strip s).points.length
  have word_ends : behind ∈ (word w).ends whole :=
    mem_ends_word.mpr ⟨(strip s).points, [], (List.append_nil _).symm, h, rfl⟩
  have words_end : behind ∈ (words literalWords).ends whole :=
    mem_ends_first.mpr ⟨word w, List.mem_map_of_mem hw, word_ends⟩
  have nothing_left : behind.rest = [] := by
    rw [Cursor.rest_skip]
    exact List.drop_length
  refine matchesStart_start_iff.mpr ⟨behind, mem_ends_all_cons.mpr ⟨behind, mem_ends_first.mpr
    ⟨words literalWords, ?_, words_end⟩, mem_ends_stop.mpr ⟨.inl nothing_left, rfl⟩⟩⟩
  simp [literalWords]

/-- Word characters after a letter make a name. -/
theorem isIdentifierText_of_isWord {s : Text} {c : CodePoint} {cs : List CodePoint}
    (h : (strip s).points = c :: cs) (hc : isNameStart c = true)
    (hcs : ∀ d ∈ cs, isWord d = true) : isIdentifierText s = true := by
  let opened := (Cursor.ofChars (strip s).points).skip 1
  let closed := opened.skip (runLength (fun d => isWord d || d == '$') 0 opened.rest)
  have opened_rest : opened.rest = cs := by
    rw [Cursor.rest_skip]
    show (strip s).points.drop 1 = cs
    rw [h, List.drop_one, List.tail_cons]
  have closed_rest : closed.rest = [] := by
    rw [rest_run, opened_rest, List.dropWhile_eq_nil_iff]
    exact fun d hd => by rw [hcs d hd, Bool.true_or]
  have named : closed ∈ namePattern.ends (Cursor.ofChars (strip s).points) :=
    List.mem_flatMap.mpr ⟨opened, mem_ends_oneOf.mpr ⟨c, cs, h, hc, rfl⟩, List.mem_singleton_self _⟩
  refine matchesStart_start_iff.mpr ⟨closed, mem_ends_all_cons.mpr ⟨closed, named, ?_⟩⟩
  exact mem_ends_all_cons.mpr
    ⟨closed, mem_ends_many_self _ _, mem_ends_stop.mpr ⟨.inl closed_rest, rfl⟩⟩

/-- **Each of the four words starts as a name does**, in whatever case it is written. -/
theorem exists_isNameStart_of_spells {s : List CodePoint} {w : String} (hw : w ∈ literalWords)
    (h : Spells w.toList s) :
    ∃ c cs, s = c :: cs ∧ isNameStart c = true ∧ ∀ d ∈ cs, isWord d = true := by
  have letters : ∀ w ∈ literalWords, ∃ l ls, w.toList = l :: ls ∧ l ∉ ['s', 'k', 'i'] ∧
      (l :: ls).all Char.isLower = true := by
    simp only [literalWords, List.forall_mem_cons]
    exact ⟨⟨'t', _, rfl, by decide, by decide⟩, ⟨'f', _, rfl, by decide, by decide⟩,
      ⟨'n', _, rfl, by decide, by decide⟩, ⟨'u', _, rfl, by decide, by decide⟩, nofun⟩
  obtain ⟨l, ls, hWord, plain, lower⟩ := letters w hw
  rw [List.all_eq_true, List.forall_mem_cons] at lower
  rw [hWord] at h
  cases h with
  | @cons _ c _ cs same spells =>
    have ascii : isAsciiLetter c = true :=
      (isAsciiLetter_of_sameLetter lower.1 same).resolve_right fun other => plain other.1
    refine ⟨c, cs, rfl, ?_, isWord_of_spells lower.2 spells⟩
    rw [isNameStart, ascii, Bool.true_or, Bool.true_or]

/-- Each of the four words is a name, in whatever case it is written. -/
theorem isIdentifierText_of_spells {s : Text} {w : String} (hw : w ∈ literalWords)
    (h : Spells w.toList (strip s).points) : isIdentifierText s = true := by
  obtain ⟨c, cs, hPoints, hc, hcs⟩ := exists_isNameStart_of_spells hw h
  exact isIdentifierText_of_isWord hPoints hc hcs

/-- **A text is that of a literal and a name at once** just if it is one of the four words, in
whatever case it is written. -/
theorem isLiteralText_and_isIdentifierText {s : Text} :
    isLiteralText s = true ∧ isIdentifierText s = true ↔
      ∃ w ∈ literalWords, Spells w.toList (strip s).points := by
  constructor
  · rintro ⟨hLiteral, hName⟩
    obtain ⟨c, rest, hPoints, hc⟩ := exists_isNameStart hName
    obtain ⟨e, he⟩ := matchesStart_start_iff.mp hLiteral
    obtain ⟨m, hm, hStop⟩ := mem_ends_all_cons.mp he
    obtain ⟨w, hw, hm⟩ := exists_word_of_mem_ends hPoints hc hm
    obtain ⟨letters, after, points_eq, spells, rfl⟩ := mem_ends_word.mp hm
    have points_eq : (strip s).points = letters ++ after := points_eq
    have rest_eq : ((Cursor.ofChars (strip s).points).skip letters.length).rest = after := by
      rw [Cursor.rest_skip]
      show (strip s).points.drop letters.length = after
      rw [points_eq, List.drop_left]
    obtain ⟨hAfter, -⟩ := mem_ends_stop.mp hStop
    rw [rest_eq] at hAfter
    rcases hAfter with rfl | rfl
    · exact ⟨w, hw, by rwa [points_eq, List.append_nil]⟩
    -- The pattern would let a line feed follow, but a stripped text ends in none.
    · have last : (strip s).points.getLast? = some (.char '\n') := by
        rw [points_eq, List.getLast?_append]
        rfl
      exact absurd (isBlank_of_getLast?_strip last) (by decide)
  · rintro ⟨w, hw, spells⟩
    exact ⟨isLiteralText_of_spells hw spells, isIdentifierText_of_spells hw spells⟩

end SuiteAudit.Rules

namespace SuiteAudit

open Text

/-! ### One assertion at a time -/

/-- **An assertion on its own**: one active test, and in it nothing but the assertion. -/
def RuleContext.alone (ctx : RuleContext) (a : Assertion) : RuleContext :=
  { ctx with suite := { ctx.suite with tests := [{ name := "", assertions := [a] }] } }

/-- **A rule that looks at one assertion at a time**: of each in the active tests it tells what
`find` says, and nothing else. -/
def Rule.TellsOfEach (r : Rule) (find : Framework → Assertion → Option Finding) : Prop :=
  r.detect = some fun ctx => .ok <|
    (Rules.activeAssertions ctx.suite).filterMap fun x => find ctx.suite.framework x.2

namespace Rules

section

variable {r : Rule} {find : Framework → Assertion → Option Finding} (each : r.TellsOfEach find)

include each

theorem found_alone (ctx : RuleContext) (a : Assertion) :
    r.found (ctx.alone a) = ((find ctx.suite.framework a).map r.issue).toList := by
  rw [Rule.found, Rule.run, each]
  show ([({ name := "", assertions := [a] }, a)].filterMap
    fun x : TestCase × Assertion => find ctx.suite.framework x.2).map r.issue = _
  rw [List.filterMap_cons]
  cases find ctx.suite.framework a <;> rfl

/-- **Such a rule finds in a file** what it finds in each of the assertions on its own. -/
theorem run_eq_flatMap_alone (ctx : RuleContext) :
    r.run ctx = .ok ((activeAssertions ctx.suite).flatMap fun x => r.found (ctx.alone x.2)) := by
  rw [Rule.run, each]
  show Except.ok (List.map r.issue _) = _
  simp only [found_alone each]
  rw [List.map_filterMap, List.filterMap_eq_flatMap_toList]

end

/-- What a trivial assertion is told. -/
def trivialFinding? (a : Assertion) : Option Finding :=
  if hasLiteralSubject a then
    some
      { message :=
          "Assertion on the literal " ++ a.subject ++ " can never fail for the right reason"
        span := a.span }
  else none

/-- What a tautology is told. -/
def tautologyFinding? (a : Assertion) : Option Finding :=
  if isTautology a then
    some { message := "'" ++ a.subject ++ "' is compared with itself", span := a.span }
  else none

theorem weakAssertion_tellsOfEach : weakAssertion.TellsOfEach weakFinding? :=
  rfl

theorem trivialAssertion_tellsOfEach :
    trivialAssertion.TellsOfEach fun _ => trivialFinding? := by
  simp only [Rule.TellsOfEach, trivialAssertion, ← List.filterMap_eq_map, List.filterMap_filter]
  rfl

theorem tautologicalAssertion_tellsOfEach :
    tautologicalAssertion.TellsOfEach fun _ => tautologyFinding? := by
  simp only [Rule.TellsOfEach, tautologicalAssertion, ← List.filterMap_eq_map,
    List.filterMap_filter]
  rfl

/-! ### Assertions that two rules find -/

/-- A table that rates a matcher neither moderate nor weak has it as strong or not at all. -/
theorem get?_eq_strong_or_none {t : StrengthTable} {m : Text} (h : m ∉ t.moderate ++ t.weak) :
    t.get? m = some .strong ∨ t.get? m = none := by
  rw [List.mem_append, not_or, ← List.contains_iff_mem, ← List.contains_iff_mem] at h
  rw [StrengthTable.get?, if_neg h.1, if_neg h.2]
  exact ite_eq_or_eq _ _ _

/-- **A matcher that compares for equality is strong wherever it is known.** -/
theorem baseStrength_of_equality {matcher : Text} (h : matcher ∈ equalityMatchers)
    (style : AssertionStyle) (framework : Framework) :
    baseStrength matcher style framework = some .strong ∨
      baseStrength matcher style framework = none := by
  have unadjusted : framework.adjustment? matcher = none := by
    have tables : ∀ m ∈ equalityMatchers,
        playwrightTable.get? m = none ∧ cypressTable.get? m = none := by decide +kernel
    cases framework
    case playwright => exact (tables matcher h).1
    case cypress => exact (tables matcher h).2
    all_goals rfl
  have known : ∀ table ∈ [chaiTable, shouldTable, assertTable, implicitTable, expectTable],
      ∀ m ∈ equalityMatchers, m ∉ table.moderate ++ table.weak := by
    decide +kernel
  have last_word : ∀ m ∈ equalityMatchers,
      Text.afterLast '.' m ∉ chaiTable.moderate ++ chaiTable.weak := by
    decide +kernel
  have own : style.table ∈ [chaiTable, shouldTable, assertTable, implicitTable, expectTable] := by
    cases style <;> simp [AssertionStyle.table]
  rw [baseStrength, unadjusted]
  rcases get?_eq_strong_or_none (known _ own matcher h) with hTable | hTable
  · rw [hTable]
    exact .inl rfl
  · rw [hTable]
    dsimp only
    split
    · exact get?_eq_strong_or_none (last_word matcher h)
    · exact .inr rfl

/-- **A weak assertion is neither trivial nor a tautology.** -/
theorem weakFinding?_eq_none {framework : Framework} {a : Assertion}
    (h : hasLiteralSubject a = true ∨ isTautology a = true) : weakFinding? framework a = none := by
  by_cases hLiteral : hasLiteralSubject a = true
  · rw [weakFinding?, if_pos hLiteral]
  · have hEquality : a.matcher ∈ equalityMatchers := by
      have := h.resolve_left hLiteral
      simp only [isTautology, Bool.and_eq_true, List.contains_iff_mem] at this
      exact this.1.1.1
    have no_snapshot : ∀ m ∈ equalityMatchers, snapshotMatchers.contains m = false := by
      decide +kernel
    have not_weak : isWeak a framework = false := by
      rw [isWeak, beq_eq_false_iff_ne, strengthOf]
      rcases baseStrength_of_equality hEquality a.style framework with hStrong | hNone
      -- Negation makes a strong assertion a moderate one at worst.
      · rw [hStrong, Option.map_some]
        split <;> decide
      · rw [hNone, Option.map_none]
        decide
    rw [weakFinding?, if_neg hLiteral, Assertion.isSnapshot, no_snapshot _ hEquality, not_weak]
    rfl

theorem hasLiteralSubject_iff {a : Assertion} :
    hasLiteralSubject a = true ↔
      a.style ∉ [.cypress, .custom, .should] ∧ a.subject ≠ "" ∧ isLiteralText a.subject = true := by
  unfold hasLiteralSubject
  split <;> simp_all

theorem isTautology_iff {a : Assertion} :
    isTautology a = true ↔ a.matcher ∈ equalityMatchers ∧ a.subject ≠ "" ∧
      a.args = [a.subject] ∧ isIdentifierText a.subject = true := by
  simp [isTautology, and_assoc]

/-- The empty text spells none of the four words. -/
theorem subject_ne_of_spells {w : String} (hw : w ∈ literalWords) {s : Text}
    (h : Spells w.toList (strip s).points) : s ≠ "" := by
  rintro rfl
  have none_empty : ∀ w ∈ literalWords, w.toList ≠ [] := by decide
  have nothing : (strip "").points = [] := rfl
  rw [nothing] at h
  exact none_empty w hw (List.forall₂_nil_right_iff.mp h)

/-- **An assertion is trivial and a tautology at once** just if it compares one of the four words
with itself, in a style that is not exempt. -/
theorem trivial_and_tautology {a : Assertion} :
    hasLiteralSubject a = true ∧ isTautology a = true ↔
      a.style ∉ [.cypress, .custom, .should] ∧ a.matcher ∈ equalityMatchers ∧
        a.args = [a.subject] ∧ ∃ w ∈ literalWords, Spells w.toList (strip a.subject).points := by
  rw [hasLiteralSubject_iff, isTautology_iff, ← isLiteralText_and_isIdentifierText]
  constructor
  · rintro ⟨⟨hStyle, -, hLiteral⟩, hMatcher, -, hArgs, hName⟩
    exact ⟨hStyle, hMatcher, hArgs, hLiteral, hName⟩
  · rintro ⟨hStyle, hMatcher, hArgs, hLiteral, hName⟩
    obtain ⟨w, hw, spells⟩ := isLiteralText_and_isIdentifierText.mp ⟨hLiteral, hName⟩
    have some_text : a.subject ≠ "" := subject_ne_of_spells hw spells
    exact ⟨⟨hStyle, some_text, hLiteral⟩, hMatcher, some_text, hArgs, hName⟩

/-- **Which assertions are charged twice.** Each of the three rules finds in a file what it finds in
the assertions of its active tests, one at a time. What one of them finds weak, no other finds. But
an assertion is trivial and a tautology at once just if it compares a word that stands for a value
with itself, in a style that is not exempt; so it costs points in two categories. -/
theorem charged_in_two_categories (ctx : RuleContext) :
    (∀ r ∈ [weakAssertion, trivialAssertion, tautologicalAssertion],
      r.run ctx =
        .ok ((activeAssertions ctx.suite).flatMap fun x => r.found (ctx.alone x.2))) ∧
      ∀ a : Assertion,
        (weakAssertion.found (ctx.alone a) = [] ∨
          trivialAssertion.found (ctx.alone a) = [] ∧
            tautologicalAssertion.found (ctx.alone a) = []) ∧
        (trivialAssertion.found (ctx.alone a) ≠ [] ∧
            tautologicalAssertion.found (ctx.alone a) ≠ [] ↔
          a.style ∉ [.cypress, .custom, .should] ∧ a.matcher ∈ equalityMatchers ∧
            a.args = [a.subject] ∧
            ∃ w ∈ literalWords, Spells w.toList (strip a.subject).points) := by
  have trivial_found (a : Assertion) :
      trivialAssertion.found (ctx.alone a) ≠ [] ↔ hasLiteralSubject a = true := by
    rw [found_alone trivialAssertion_tellsOfEach, trivialFinding?]
    split <;> simp_all
  have tautology_found (a : Assertion) :
      tautologicalAssertion.found (ctx.alone a) ≠ [] ↔ isTautology a = true := by
    rw [found_alone tautologicalAssertion_tellsOfEach, tautologyFinding?]
    split <;> simp_all
  refine ⟨?_, fun a => ⟨?_, ?_⟩⟩
  · intro r hr
    simp only [List.mem_cons, List.not_mem_nil, or_false] at hr
    rcases hr with rfl | rfl | rfl
    · exact run_eq_flatMap_alone weakAssertion_tellsOfEach ctx
    · exact run_eq_flatMap_alone trivialAssertion_tellsOfEach ctx
    · exact run_eq_flatMap_alone tautologicalAssertion_tellsOfEach ctx
  · by_cases other : hasLiteralSubject a = true ∨ isTautology a = true
    · refine .inl ?_
      rw [found_alone weakAssertion_tellsOfEach, weakFinding?_eq_none other]
      rfl
    · rw [← trivial_found, ← tautology_found, not_or, not_not, not_not] at other
      exact .inr other
  · rw [trivial_found, tautology_found]
    exact trivial_and_tautology

end Rules

end SuiteAudit
