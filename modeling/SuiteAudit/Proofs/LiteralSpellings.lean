import Mathlib.Data.List.DropRight
import SuiteAudit.Proofs.PlainNumerals
import SuiteAudit.Suite.Body

/-!
# Literals by kind and by spelling

Whether an argument is a literal is told twice: by the kind of its node when it is passed to a call,
and by its text on one line when an assertion is about it. The text is that of a literal if it has
one of the spellings that the pattern knows (`isLiteralText_iff`). Where a node is spelt as its kind
is, some literals are overlooked, some other nodes are mistaken for literals, and the two ways agree
on all the rest (`literalSpelling_iff_isLiteral`). This is also what settles which expectations are
reported as trivial (`trivial_by_spelling`).
-/

namespace SuiteAudit

open Text

/-! ### Text on one line -/

namespace Chars

variable {s rest : List CodePoint} {c : CodePoint} {inRun : Bool}

theorem squeezeFrom_append_cons (h : isBlank c = false) :
    squeezeFrom inRun (s ++ c :: rest) = squeezeFrom inRun s ++ c :: squeezeFrom false rest := by
  induction s generalizing inRun with
  | nil => simp [squeezeFrom, h]
  | cons d s ih =>
    rw [List.cons_append, squeezeFrom, squeezeFrom]
    split
    · split
      · exact ih
      · rw [ih, List.cons_append]
    · rw [ih, List.cons_append]

theorem squeezeFrom_eq_self (h : ∀ c ∈ s, isBlank c = false) : squeezeFrom inRun s = s := by
  induction s generalizing inRun with
  | nil => rfl
  | cons c s ih =>
    rw [List.forall_mem_cons] at h
    rw [squeezeFrom, h.1, if_neg Bool.false_ne_true, ih h.2]

theorem mem_squeezeFrom (h : isBlank c = false) : c ∈ squeezeFrom inRun s ↔ c ∈ s := by
  induction s generalizing inRun with
  | nil => rfl
  | cons d s ih =>
    have space_ne : c ≠ .char ' ' := by
      rintro rfl
      exact absurd h (by decide)
    rw [squeezeFrom, List.mem_cons]
    split
    · next hBlank =>
      have ne : c ≠ d := by
        rintro rfl
        rw [h] at hBlank
        cases hBlank
      split
      · rw [ih, or_iff_right ne]
      · rw [List.mem_cons, ih, or_iff_right space_ne, or_iff_right ne]
    · rw [List.mem_cons, ih]

/-- **A text without blanks at its ends is stripped.** -/
theorem strip_eq_self (first : ∀ c ∈ s.head?, isBlank c = false)
    (last : ∀ c ∈ s.getLast?, isBlank c = false) : strip s = s := by
  have front : s.dropWhile isBlank = s := by
    rw [List.dropWhile_eq_self_iff]
    intro lt
    rw [first _ (List.head?_eq_getElem? ▸ List.getElem?_eq_getElem lt)]
    exact Bool.false_ne_true
  have back : s.rdropWhile isBlank = s := by
    rw [List.rdropWhile_eq_self_iff]
    intro ne_nil
    rw [last _ (List.getLast?_eq_some_getLast ne_nil)]
    exact Bool.false_ne_true
  rw [strip, stripLeft, front]
  exact back

/-- No blank starts a stripped text. -/
theorem isBlank_of_head?_strip (h : c ∈ (strip s).head?) : isBlank c = false := by
  obtain ⟨cut, hCut⟩ : strip s <+: stripLeft s := List.rdropWhile_prefix isBlank (stripLeft s)
  have first : (s.dropWhile isBlank).head? = some c := by
    show (stripLeft s).head? = some c
    rw [← hCut, List.head?_append, Option.mem_def.mp h]
    rfl
  have := List.head?_dropWhile_not isBlank s
  rw [first] at this
  exact this

/-- A text keeps its first character if that is no blank. -/
theorem exists_strip_cons (hc : isBlank c = false) (s : List CodePoint) :
    ∃ more, strip (c :: s) = c :: more := by
  have front : stripLeft (c :: s) = c :: s :=
    List.dropWhile_cons_of_neg (by rw [hc]; exact Bool.false_ne_true)
  have ne_nil : strip (c :: s) ≠ [] := by
    rw [strip, front]
    intro nothing
    have blank := List.rdropWhile_eq_nil_iff.mp nothing c List.mem_cons_self
    rw [hc] at blank
    cases blank
  obtain ⟨d, more, strip_eq⟩ := List.exists_cons_of_ne_nil ne_nil
  have part : strip (c :: s) <+: c :: s := by
    rw [strip, front]
    exact List.rdropWhile_prefix isBlank _
  rw [strip_eq, List.cons_prefix_cons] at part
  exact ⟨more, by rw [strip_eq, part.1]⟩

end Chars

namespace Text

theorem strip_compact (s : Text) : strip (compact s) = compact s := by
  show Text.mk (Chars.strip (Chars.strip _)) = Text.mk (Chars.strip _)
  rw [Chars.strip_eq_self (fun c => Chars.isBlank_of_head?_strip)
    fun c hc => isBlank_of_getLast?_strip (s := ⟨Chars.squeezeFrom false s.points⟩) hc]

/-- A text without blanks is on one line. -/
theorem compact_eq_self {s : Text} (h : ∀ c ∈ s.points, isBlank c = false) : compact s = s := by
  show Text.mk (Chars.strip (Chars.squeezeFrom false s.points)) = s
  rw [Chars.squeezeFrom_eq_self h, Chars.strip_eq_self
    (fun c hc => h c (List.mem_of_mem_head? hc)) fun c hc => h c (List.mem_of_mem_getLast? hc)]

/-- **A quoted text is quoted on one line.** -/
theorem points_compact_quoted {s : Text} {quote : CodePoint} {inside : List CodePoint}
    (hQuote : isBlank quote = false) (h : s.points = quote :: (inside ++ [quote])) :
    (compact s).points = quote :: (Chars.squeezeFrom false inside ++ [quote]) := by
  have squeezed : Chars.squeezeFrom false s.points =
      quote :: (Chars.squeezeFrom false inside ++ [quote]) := by
    rw [h]
    show Chars.squeezeFrom false ([] ++ quote :: (inside ++ [quote])) = _
    rw [Chars.squeezeFrom_append_cons hQuote, Chars.squeezeFrom_append_cons hQuote]
    rfl
  show Chars.strip (Chars.squeezeFrom false s.points) = _
  rw [squeezed]
  refine Chars.strip_eq_self (fun c hc => ?_) fun c hc => ?_
  · obtain rfl := Option.some.inj hc
    exact hQuote
  · rw [← List.cons_append, List.getLast?_concat] at hc
    obtain rfl := Option.some.inj hc
    exact hQuote

/-- A text keeps its first character on one line, if that is no blank. -/
theorem exists_points_compact {s : Text} {c : CodePoint} (hc : isBlank c = false)
    (h : s.points.head? = some c) : ∃ more, (compact s).points = c :: more := by
  obtain ⟨rest, hPoints⟩ := List.head?_eq_some_iff.mp h
  have squeezed : Chars.squeezeFrom false s.points = c :: Chars.squeezeFrom false rest := by
    rw [hPoints]
    exact Chars.squeezeFrom_append_cons (s := []) hc
  show ∃ more, Chars.strip (Chars.squeezeFrom false s.points) = c :: more
  rw [squeezed]
  exact Chars.exists_strip_cons hc _

end Text

namespace Rules

open Text.Pattern Syntax

/-! ### Spellings of literals -/

/-- **The marks that quote a text**, each with the characters that may not stand between them. -/
def quotings : List (CodePoint × List CodePoint) :=
  [(.char '\'', [.char '\'']), (.char '"', [.char '"']), (.char '\x60', [.char '\x60', .char '$'])]

/-- **The spellings of literals**: plain numerals, quoted texts, and the four words in whatever
case. -/
inductive LiteralSpelling : List CodePoint → Prop
  | numeral (n : PlainNumeral) : LiteralSpelling n.text
  | quoted {quote : CodePoint} {stops inside : List CodePoint} (h : (quote, stops) ∈ quotings)
      (plain : ∀ c ∈ inside, c ∉ stops) : LiteralSpelling (quote :: (inside ++ [quote]))
  | word {w : String} {s : List CodePoint} (hw : w ∈ literalWords) (h : Spells w.toList s) :
      LiteralSpelling s

theorem reads_quotedPattern {quote : CodePoint} {stops : List CodePoint} (closes : quote ∈ stops) :
    (quotedPattern quote stops).Reads fun s _ =>
      ∃ inside, s = quote :: (inside ++ [quote]) ∧ ∀ c ∈ inside, c ∉ stops := by
  refine ((reads_oneOf _).all_cons ((reads_run _).all_cons ((reads_oneOf _).all_cons
    reads_nil))).congr fun s rest => ?_
  constructor
  · rintro ⟨_, _, rfl, ⟨c, rfl, hc⟩, inside, _, rfl, ⟨plain, -⟩, _, _, rfl, ⟨d, rfl, hd⟩, rfl⟩
    obtain rfl : c = quote := beq_iff_eq.mp hc
    obtain rfl : d = c := beq_iff_eq.mp hd
    exact ⟨inside, rfl, fun e he => by simpa using plain e he⟩
  · rintro ⟨inside, rfl, plain⟩
    refine ⟨[quote], _, rfl, ⟨_, rfl, beq_iff_eq.mpr rfl⟩, inside, [quote], rfl, ⟨?_, ?_⟩, [quote],
      [], rfl, ⟨_, rfl, beq_iff_eq.mpr rfl⟩, rfl⟩
    · exact fun e he => by simpa using plain e he
    · intro e he
      obtain rfl := Option.some.inj he
      simpa using closes

/-- **The pattern for literals reads their spellings**, where nothing follows. -/
theorem exists_reads_literal :
    ∃ shape, (first [numberPattern, quotedPattern '\'' ['\''], quotedPattern '"' ['"'],
        quotedPattern '\x60' ['\x60', '$'], words literalWords]).Reads shape ∧
      ∀ s, shape s [] ↔ LiteralSpelling s := by
  obtain ⟨numeral, reads_number, numeral_iff⟩ := exists_reads_numberPattern
  refine ⟨_, reads_number.first_cons ((reads_quotedPattern (by decide)).first_cons
    ((reads_quotedPattern (by decide)).first_cons ((reads_quotedPattern (by decide)).first_cons
      ((reads_words literalWords).first_cons reads_none)))), fun s => ?_⟩
  rw [numeral_iff]
  constructor
  · rintro (⟨n, rfl⟩ | ⟨inside, rfl, plain⟩ | ⟨inside, rfl, plain⟩ | ⟨inside, rfl, plain⟩ |
      ⟨w, hw, spells⟩ | h)
    · exact .numeral n
    · exact .quoted (by simp [quotings]) plain
    · exact .quoted (by simp [quotings]) plain
    · exact .quoted (by simp [quotings]) plain
    · exact .word hw spells
    · exact h.elim
  · intro h
    cases h with
    | numeral n => exact .inl ⟨n, rfl⟩
    | @quoted quote stops inside h plain =>
      simp only [quotings, List.mem_cons, Prod.mk.injEq, List.not_mem_nil, or_false] at h
      rcases h with ⟨rfl, rfl⟩ | ⟨rfl, rfl⟩ | ⟨rfl, rfl⟩
      · exact .inr (.inl ⟨inside, rfl, plain⟩)
      · exact .inr (.inr (.inl ⟨inside, rfl, plain⟩))
      · exact .inr (.inr (.inr (.inl ⟨inside, rfl, plain⟩)))
    | word hw spells => exact .inr (.inr (.inr (.inr (.inl ⟨_, hw, spells⟩))))

/-- **A text is that of a literal** if it has one of the spellings. -/
theorem isLiteralText_iff {s : Text} :
    isLiteralText s = true ↔ LiteralSpelling (strip s).points := by
  obtain ⟨shape, reads, shape_iff⟩ := exists_reads_literal
  refine (matchesStart_whole_iff reads).trans ⟨?_, fun h => ?_⟩
  · rintro ⟨read, rest, points_eq, hShape, rfl | rfl⟩
    · rw [points_eq, List.append_nil]
      exact (shape_iff read).mp hShape
    -- The pattern would let a line feed follow, but a stripped text ends in none.
    · have last : (strip s).points.getLast? = some (.char '\n') := by
        rw [points_eq, List.getLast?_append]
        rfl
      exact absurd (isBlank_of_getLast?_strip last) (by decide)
  · exact ⟨_, [], (List.append_nil _).symm, (shape_iff _).mpr h, .inl rfl⟩

/-! ### How spellings begin -/

/-- The marks that quote a text. -/
def quoteMarks : List CodePoint :=
  quotings.map (·.1)

/-- Whether a numeral can start with a character. -/
def StartsNumeral (c : CodePoint) : Prop :=
  isDigit c = true ∨ c = .char '-' ∨ c = .char '+'

instance (c : CodePoint) : Decidable (StartsNumeral c) :=
  inferInstanceAs (Decidable (isDigit c = true ∨ c = .char '-' ∨ c = .char '+'))

theorem PlainNumeral.exists_text_eq_cons (n : PlainNumeral) :
    ∃ c rest, n.text = c :: rest ∧ StartsNumeral c := by
  rcases n.sign_shape with h | ⟨c, h, hc⟩
  · exact ⟨n.lead, _, by rw [text, h, List.nil_append], .inl n.lead_isDigit⟩
  · exact ⟨c, _, by rw [text, h, List.singleton_append], .inr hc⟩

/-- **The first character tells the kind of spelling.** -/
theorem LiteralSpelling.exists_cons {s : List CodePoint} (h : LiteralSpelling s) :
    ∃ c rest, s = c :: rest ∧
      (StartsNumeral c ∧ (∃ n : PlainNumeral, n.text = s) ∨
        (∃ stops inside, (c, stops) ∈ quotings ∧ rest = inside ++ [c] ∧ ∀ d ∈ inside, d ∉ stops) ∨
        isNameStart c = true ∧ ∃ w ∈ literalWords, Spells w.toList s) := by
  cases h with
  | numeral n =>
    obtain ⟨c, rest, text_eq, hc⟩ := n.exists_text_eq_cons
    exact ⟨c, rest, text_eq, .inl ⟨hc, n, rfl⟩⟩
  | quoted h plain => exact ⟨_, _, rfl, .inr (.inl ⟨_, _, h, rfl, plain⟩)⟩
  | word hw h =>
    obtain ⟨c, rest, rfl, hc, -⟩ := exists_isNameStart_of_spells hw h
    exact ⟨c, rest, rfl, .inr (.inr ⟨hc, _, hw, h⟩)⟩

theorem mem_quoteMarks {quote : CodePoint} {stops : List CodePoint}
    (h : (quote, stops) ∈ quotings) : quote ∈ quoteMarks :=
  List.mem_map_of_mem h

/-- A text that starts with no mark and as no name does is at best a plain numeral. -/
theorem literalSpelling_iff_numeral {s : List CodePoint}
    (h : ∀ c ∈ s.head?, c ∉ quoteMarks ∧ isNameStart c = false) :
    LiteralSpelling s ↔ ∃ n : PlainNumeral, n.text = s := by
  constructor
  · intro spelling
    obtain ⟨c, rest, rfl, ⟨-, numeral⟩ | ⟨stops, _, hMark, -⟩ | ⟨hName, -⟩⟩ := spelling.exists_cons
    · exact numeral
    · exact absurd (mem_quoteMarks hMark) (h c rfl).1
    · rw [(h c rfl).2] at hName
      cases hName
  · rintro ⟨n, rfl⟩
    exact .numeral n

/-- A text that starts with no mark and as no numeral does is at best one of the four words. -/
theorem literalSpelling_iff_word {s : List CodePoint}
    (h : ∀ c ∈ s.head?, c ∉ quoteMarks ∧ ¬StartsNumeral c) :
    LiteralSpelling s ↔ ∃ w ∈ literalWords, Spells w.toList s := by
  constructor
  · intro spelling
    obtain ⟨c, rest, rfl, ⟨hNumeral, -⟩ | ⟨stops, _, hMark, -⟩ | ⟨-, word⟩⟩ := spelling.exists_cons
    · exact absurd hNumeral (h c rfl).2
    · exact absurd (mem_quoteMarks hMark) (h c rfl).1
    · exact word
  · rintro ⟨w, hw, spells⟩
    exact .word hw spells

/-- **A quoted text is spelt like a literal** if nothing between its marks stops it. -/
theorem literalSpelling_quoted_iff {quote : CodePoint} {stops inside : List CodePoint}
    (h : (quote, stops) ∈ quotings) :
    LiteralSpelling (quote :: (inside ++ [quote])) ↔ ∀ c ∈ inside, c ∉ stops := by
  constructor
  · intro spelling
    have others : ∀ quoting ∈ quotings,
        ¬StartsNumeral quoting.1 ∧ isNameStart quoting.1 = false ∧
          ∀ quoting' ∈ quotings, quoting'.1 = quoting.1 → quoting' = quoting := by decide
    obtain ⟨not_numeral, not_name, alone⟩ := others _ h
    obtain ⟨c, rest, same, ⟨hNumeral, -⟩ | ⟨stops', inside', hMark, rfl, plain⟩ | ⟨hName, -⟩⟩ :=
      spelling.exists_cons
    · obtain ⟨rfl, -⟩ := List.cons.inj same
      exact absurd hNumeral not_numeral
    · obtain ⟨rfl, same⟩ := List.cons.inj same
      obtain ⟨rfl, -⟩ := List.append_inj' same rfl
      obtain ⟨-, rfl⟩ := Prod.mk.inj (alone _ hMark rfl)
      exact plain
    · obtain ⟨rfl, -⟩ := List.cons.inj same
      rw [hName] at not_name
      cases not_name
  · exact .quoted h

/-- Every word spells itself. -/
theorem spells_self (w : String) : Spells w.toList (Text.ofString w).points := by
  show List.Forall₂ _ w.toList (w.toList.map CodePoint.char)
  rw [List.forall₂_map_right_iff, List.forall₂_same]
  intro letter _
  simp [CodePoint.isIn, sameLetter]

end Rules

namespace Syntax

open Rules

/-! ### Literals by kind -/

/-- The kinds of literal that an assertion should not be about. -/
def valueKinds : List Text :=
  ["number", "string", "template", "boolean", "null", "undefined"]

namespace Node

/-- **A node is a literal by its kind**, arrays and objects apart. -/
def IsLiteral (n : Node) : Prop :=
  ∃ l, n.literal? = .ok (some l) ∧ l.kind ∈ valueKinds

/-- The characters of a node. -/
def points (n : Node) : List CodePoint :=
  (Text.ofString n.text).points

theorem numberValue_of_kind {n : Node} (unary : n.kind ≠ "unary_expression")
    (number : n.kind ≠ "number") : n.numberValue = .ok none := by
  obtain ⟨label, children⟩ := n
  rw [numberValue, if_neg (by rwa [beq_iff_eq]), if_neg (by rwa [beq_iff_eq])]

theorem literal?_of_value {n : Node} (h : n.kind ≠ "parenthesized_expression") {x : Float}
    (hx : n.numberValue = .ok (some x)) : n.literal? = .ok (some (.number (some x))) := by
  obtain ⟨label, children⟩ := n
  have kind_ne : (label.kind == "parenthesized_expression") = false := beq_false_of_ne h
  rw [literal?, kind_ne, Bool.false_and, if_neg Bool.false_ne_true, hx]
  rfl

theorem literal?_of_no_value {n : Node} (h : n.kind ≠ "parenthesized_expression")
    (hNone : n.numberValue = .ok none) : n.literal? = .ok n.plainLiteral? := by
  obtain ⟨label, children⟩ := n
  have kind_ne : (label.kind == "parenthesized_expression") = false := beq_false_of_ne h
  rw [literal?, kind_ne, Bool.false_and, if_neg Bool.false_ne_true, hNone]
  rfl

/-- **A number is a literal** if it has a value. -/
theorem isLiteral_iff_value {n : Node} (h : n.kind = "number" ∨ n.kind = "unary_expression") :
    n.IsLiteral ↔ ∃ x, n.numberValue = .ok (some x) := by
  have not_parenthesized : n.kind ≠ "parenthesized_expression" := by
    rcases h with h | h <;> simp [h]
  have not_plain : n.plainLiteral? = none := by
    rcases h with h | h <;> simp [plainLiteral?, h]
  constructor
  · rintro ⟨l, hl, -⟩
    cases hValue : n.numberValue with
    | error e =>
      obtain ⟨label, children⟩ := n
      have kind_ne : (label.kind == "parenthesized_expression") = false :=
        beq_false_of_ne not_parenthesized
      rw [literal?, kind_ne, Bool.false_and, if_neg Bool.false_ne_true, hValue] at hl
      cases hl
    | ok value =>
      cases value with
      | none =>
        rw [literal?_of_no_value not_parenthesized hValue, not_plain] at hl
        cases hl
      | some x => exact ⟨x, rfl⟩
  · rintro ⟨x, hx⟩
    exact ⟨_, literal?_of_value not_parenthesized hx, List.mem_cons_self⟩

/-- **Another node is a literal** by its kind alone. -/
theorem isLiteral_iff_plain {n : Node} (unary : n.kind ≠ "unary_expression")
    (number : n.kind ≠ "number") (parenthesized : n.kind ≠ "parenthesized_expression") :
    n.IsLiteral ↔ ∃ l, n.plainLiteral? = some l ∧ l.kind ∈ valueKinds := by
  rw [IsLiteral, literal?_of_no_value parenthesized (numberValue_of_kind unary number)]
  simp

/-- **A node is spelt as its kind is.** This is what the grammars say of single tokens, of the sign
of an expression, and of parentheses. -/
structure Spelt (n : Node) : Prop where
  number : n.kind = "number" →
    (∀ c ∈ n.points, isBlank c = false ∧ c ≠ .char 'N') ∧
      ∀ c ∈ n.points.head?, isDigit c = true ∨ c = .char '.'
  signed : n.kind = "unary_expression" → ∃ rest, n.text = n.operator ++ rest
  string : n.kind = "string" → ∃ quote inside, (quote = .char '\'' ∨ quote = .char '"') ∧
    n.points = quote :: (inside ++ [quote])
  template : n.kind = "template_string" → ∃ inside,
    n.points = .char '\x60' :: (inside ++ [.char '\x60']) ∧
      (n.children.any (·.kind == "template_substitution") = true → .char '$' ∈ inside)
  word : n.kind ∈ literalWords → n.text = n.kind
  name : n.kind = "identifier" → (∀ c ∈ n.points, isBlank c = false) ∧
    ∀ c ∈ n.points.head?, c ∉ quoteMarks ∧ ¬StartsNumeral c
  parenthesized : n.kind = "parenthesized_expression" → n.points.head? = some (.char '(')

/-- **A literal whose text is not taken for one**: it stands in parentheses, is no plain numeral, or
has a character inside that stops the pattern. -/
inductive Overlooked (n : Node) : Prop
  | parenthesized (kind_eq : n.kind = "parenthesized_expression") (literal : n.IsLiteral)
  | number (kind_eq : n.kind = "number" ∨ n.kind = "unary_expression") (literal : n.IsLiteral)
      (spelling : ¬∃ p : PlainNumeral, p.text = n.compact.points)
  | string (kind_eq : n.kind = "string") {quote : CodePoint} (hQuote : n.points.head? = some quote)
      (inside : quote ∈ n.points.tail.dropLast)
  | template (kind_eq : n.kind = "template_string") (literal : n.IsLiteral)
      (inside : .char '\x60' ∈ n.points.tail.dropLast ∨ .char '$' ∈ n.points.tail.dropLast)

/-- The kinds of node whose spelling their kind settles. -/
def spelledKinds : List String :=
  ["number", "string", "template_string", "identifier", "parenthesized_expression"] ++ literalWords

/-- **What is taken for a literal without being one**: one of the four words in another case, which
is a name, or an expression of a kind of its own that is spelt like a literal. -/
inductive Mistaken (n : Node) : Prop
  | name (kind_eq : n.kind = "identifier") (text_ne : n.text ≠ "undefined")
      (spelling : ∃ w ∈ literalWords, Spells w.toList n.points)
  | other (kind_ne : n.kind ∉ spelledKinds) (no_literal : ¬n.IsLiteral)
      (spelling : LiteralSpelling n.compact.points)

theorem isLiteralText_compact_iff_spelling {n : Node} :
    isLiteralText n.compact = true ↔ LiteralSpelling n.compact.points := by
  rw [isLiteralText_iff, compact, strip_compact]

section

variable {n : Node} (h : n.Spelt)

include h

theorem Spelt.literalSpelling_of_number (hKind : n.kind = "number") :
    LiteralSpelling n.compact.points ↔
      n.IsLiteral ∧ ∃ p : PlainNumeral, p.text = n.compact.points := by
  obtain ⟨solid, begins⟩ := h.number hKind
  have compact_eq : n.compact.points = n.points :=
    congrArg Text.points (compact_eq_self fun c hc => (solid c hc).1)
  have others : ∀ c ∈ n.points.head?, c ∉ quoteMarks ∧ isNameStart c = false := by
    intro c hc
    rcases begins c hc with hDigit | rfl
    · refine ⟨fun hMark => ?_, isNameStart_of_isDigit hDigit⟩
      have marks : ∀ c ∈ quoteMarks, isDigit c = false := by decide
      rw [marks c hMark] at hDigit
      cases hDigit
    · exact ⟨by decide, by decide⟩
  rw [compact_eq, literalSpelling_iff_numeral others]
  refine ⟨fun ⟨p, hp⟩ => ⟨?_, p, hp⟩, And.right⟩
  have small : p.mark ≠ [.char 'N'] := by
    intro large
    have capital : .char 'N' ∈ n.points := by
      rw [← hp, PlainNumeral.text, PlainNumeral.afterWhole, large]
      simp
    exact (solid _ capital).2 rfl
  obtain ⟨x, hx⟩ := p.exists_numeralValue small hp.symm
  refine (isLiteral_iff_value (.inl hKind)).mpr ⟨x, ?_⟩
  obtain ⟨label, children⟩ := n
  have kind_eq : label.kind = "number" := hKind
  rw [numberValue, if_neg (by rw [kind_eq]; decide), if_pos (by rw [kind_eq]; decide)]
  exact hx

theorem Spelt.literalSpelling_of_signed (hKind : n.kind = "unary_expression")
    (literal : n.IsLiteral) :
    LiteralSpelling n.compact.points ↔ ∃ p : PlainNumeral, p.text = n.compact.points := by
  obtain ⟨x, hx⟩ := (isLiteral_iff_value (.inr hKind)).mp literal
  have hSign : n.operator = "-" ∨ n.operator = "+" := by
    obtain ⟨label, children⟩ := n
    rw [numberValue, if_pos (by rw [show label.kind = _ from hKind]; rfl)] at hx
    dsimp only at hx
    split at hx
    · next hSign => simpa using hSign
    · cases hx
  obtain ⟨rest, text_eq⟩ := h.signed hKind
  have begins : ∃ c, n.points.head? = some c ∧ (c = .char '-' ∨ c = .char '+') := by
    rcases hSign with hSign | hSign
    · exact ⟨_, by rw [points, text_eq, hSign]; simp [Text.ofString], .inl rfl⟩
    · exact ⟨_, by rw [points, text_eq, hSign]; simp [Text.ofString], .inr rfl⟩
  obtain ⟨c, hc, sign⟩ := begins
  have others : c ∉ quoteMarks ∧ isNameStart c = false ∧ isBlank c = false := by
    rcases sign with rfl | rfl <;> decide
  obtain ⟨more, compact_eq⟩ := exists_points_compact others.2.2 hc
  refine literalSpelling_iff_numeral fun d hd => ?_
  rw [compact, compact_eq] at hd
  obtain rfl := Option.some.inj hd
  exact ⟨others.1, others.2.1⟩

theorem Spelt.literalSpelling_of_string (hKind : n.kind = "string") :
    LiteralSpelling n.compact.points ↔
      ∀ quote ∈ n.points.head?, quote ∉ n.points.tail.dropLast := by
  obtain ⟨quote, inside, hQuote, points_eq⟩ := h.string hKind
  have marks : (quote, [quote]) ∈ quotings ∧ isBlank quote = false := by
    rcases hQuote with rfl | rfl <;> decide
  rw [compact, points_compact_quoted marks.2 points_eq, literalSpelling_quoted_iff marks.1,
    points_eq, List.tail_cons, List.dropLast_concat]
  constructor
  · intro plain quote' hSame hMem
    obtain rfl := Option.some.inj hSame
    exact plain _ ((Chars.mem_squeezeFrom marks.2).mpr hMem) (List.mem_singleton_self _)
  · intro plain c hc hStop
    obtain rfl := List.mem_singleton.mp hStop
    exact plain _ rfl ((Chars.mem_squeezeFrom marks.2).mp hc)

theorem Spelt.literalSpelling_of_template (hKind : n.kind = "template_string") :
    LiteralSpelling n.compact.points ↔
      .char '\x60' ∉ n.points.tail.dropLast ∧ .char '$' ∉ n.points.tail.dropLast := by
  obtain ⟨inside, points_eq, -⟩ := h.template hKind
  have marks : (CodePoint.char '\x60', [CodePoint.char '\x60', .char '$']) ∈ quotings ∧
      isBlank (.char '\x60') = false ∧ isBlank (.char '$') = false := by decide
  rw [compact, points_compact_quoted marks.2.1 points_eq, literalSpelling_quoted_iff marks.1,
    points_eq, List.tail_cons, List.dropLast_concat,
    ← Chars.mem_squeezeFrom marks.2.1 (s := inside),
    ← Chars.mem_squeezeFrom marks.2.2 (s := inside)]
  constructor
  · exact fun plain => ⟨fun hMem => plain _ hMem (by simp), fun hMem => plain _ hMem (by simp)⟩
  · rintro ⟨no_mark, no_dollar⟩ c hc hStop
    rcases List.mem_cons.mp hStop with rfl | hStop
    · exact no_mark hc
    · obtain rfl := List.mem_singleton.mp hStop
      exact no_dollar hc

theorem Spelt.isLiteral_of_no_dollar (hKind : n.kind = "template_string")
    (no_dollar : .char '$' ∉ n.points.tail.dropLast) : n.IsLiteral := by
  obtain ⟨inside, points_eq, substitutes⟩ := h.template hKind
  rw [points_eq, List.tail_cons, List.dropLast_concat] at no_dollar
  rw [isLiteral_iff_plain (by simp [hKind]) (by simp [hKind]) (by simp [hKind])]
  have none_substituted : n.children.any (·.kind == "template_substitution") = false :=
    Bool.eq_false_iff.mpr fun some_substituted => no_dollar (substitutes some_substituted)
  refine ⟨.template (some (Text.inner n.text)), ?_, by simp [Literal.kind, valueKinds]⟩
  rw [plainLiteral?, stringValue?, hKind, none_substituted]
  rfl

theorem Spelt.compact_of_word (hKind : n.kind ∈ literalWords) :
    n.compact.points = (Text.ofString n.kind).points := by
  have solid : ∀ w ∈ literalWords, ∀ c ∈ (Text.ofString w).points, isBlank c = false := by decide
  rw [compact, h.word hKind, compact_eq_self (solid _ hKind)]

theorem Spelt.literalSpelling_of_name (hKind : n.kind = "identifier") :
    LiteralSpelling n.compact.points ↔ ∃ w ∈ literalWords, Spells w.toList n.points := by
  obtain ⟨solid, begins⟩ := h.name hKind
  have compact_eq : n.compact.points = n.points := congrArg Text.points (compact_eq_self solid)
  rw [compact_eq, literalSpelling_iff_word begins]

theorem Spelt.not_literalSpelling_of_parenthesized (hKind : n.kind = "parenthesized_expression") :
    ¬LiteralSpelling n.compact.points := by
  obtain ⟨more, compact_eq⟩ := exists_points_compact (by decide) (h.parenthesized hKind)
  have begins : ∀ c ∈ n.compact.points.head?, c = .char '(' := by
    intro c hc
    rw [compact, compact_eq] at hc
    exact (Option.some.inj hc).symm
  rw [literalSpelling_iff_numeral fun c hc => by rw [begins c hc]; decide]
  rintro ⟨p, hp⟩
  obtain ⟨c, rest, text_eq, hStarts⟩ := p.exists_text_eq_cons
  rw [begins c (by rw [← hp, text_eq]; rfl)] at hStarts
  exact absurd hStarts (by decide)

end

theorem isLiteral_of_string {n : Node} (hKind : n.kind = "string") : n.IsLiteral := by
  rw [isLiteral_iff_plain (by simp [hKind]) (by simp [hKind]) (by simp [hKind])]
  exact ⟨.string n.stringValue?, by simp [plainLiteral?, hKind], by simp [Literal.kind, valueKinds]⟩

theorem isLiteral_of_word {n : Node} (hKind : n.kind ∈ literalWords) : n.IsLiteral := by
  simp only [literalWords, List.mem_cons, List.not_mem_nil, or_false] at hKind
  rcases hKind with hKind | hKind | hKind | hKind <;>
    rw [isLiteral_iff_plain (by simp [hKind]) (by simp [hKind]) (by simp [hKind])]
  · exact ⟨.boolean true, by simp [plainLiteral?, hKind], by simp [Literal.kind, valueKinds]⟩
  · exact ⟨.boolean false, by simp [plainLiteral?, hKind], by simp [Literal.kind, valueKinds]⟩
  · exact ⟨.null, by simp [plainLiteral?, hKind], by simp [Literal.kind, valueKinds]⟩
  · exact ⟨.undefined, by simp [plainLiteral?, hKind], by simp [Literal.kind, valueKinds]⟩

theorem isLiteral_iff_of_name {n : Node} (hKind : n.kind = "identifier") :
    n.IsLiteral ↔ n.text = "undefined" := by
  rw [isLiteral_iff_plain (by simp [hKind]) (by simp [hKind]) (by simp [hKind])]
  by_cases hText : n.text = "undefined"
  · simp [plainLiteral?, hKind, hText, Literal.kind, valueKinds]
  · simp [plainLiteral?, hKind, hText]

theorem not_isLiteral_of_other {n : Node} (hKind : n.kind ∉ spelledKinds)
    (unary : n.kind ≠ "unary_expression") : ¬n.IsLiteral := by
  simp only [spelledKinds, literalWords, List.mem_append, List.mem_cons, List.not_mem_nil,
    or_false, not_or] at hKind
  obtain ⟨⟨number, string, template, name, parenthesized⟩, is_true, is_false, null, undefined⟩ :=
    hKind
  rw [isLiteral_iff_plain unary number parenthesized]
  by_cases array : n.kind = "array"
  · have plain_eq : n.plainLiteral? = some .array := by simp [plainLiteral?, array]
    rw [plain_eq]
    rintro ⟨_, ⟨⟩, hMem⟩
    exact absurd hMem (by decide)
  · by_cases object : n.kind = "object"
    · have plain_eq : n.plainLiteral? = some .object := by simp [plainLiteral?, object]
      rw [plain_eq]
      rintro ⟨_, ⟨⟩, hMem⟩
      exact absurd hMem (by decide)
    · simp [plainLiteral?, string, template, name, is_true, is_false, null, undefined, array,
        object]

theorem Overlooked.isLiteral {n : Node} (h : n.Overlooked) : n.IsLiteral := by
  cases h with
  | parenthesized kind_eq literal => exact literal
  | number kind_eq literal spelling => exact literal
  | string kind_eq hQuote inside => exact isLiteral_of_string kind_eq
  | template kind_eq literal inside => exact literal

theorem Mistaken.not_isLiteral {n : Node} (h : n.Mistaken) : ¬n.IsLiteral := by
  cases h with
  | name kind_eq text_ne spelling => rwa [isLiteral_iff_of_name kind_eq]
  | other kind_ne no_literal spelling => exact no_literal

section

variable {n : Node} (h : n.Spelt)

include h

theorem Spelt.not_literalSpelling_of_overlooked (overlooked : n.Overlooked) :
    ¬LiteralSpelling n.compact.points := by
  cases overlooked with
  | parenthesized kind_eq literal => exact h.not_literalSpelling_of_parenthesized kind_eq
  | number kind_eq literal spelling =>
    rcases kind_eq with kind_eq | kind_eq
    · rw [h.literalSpelling_of_number kind_eq]
      exact fun both => spelling both.2
    · rwa [h.literalSpelling_of_signed kind_eq literal]
  | string kind_eq hQuote inside =>
    rw [h.literalSpelling_of_string kind_eq]
    exact fun plain => plain _ hQuote inside
  | template kind_eq literal inside =>
    rw [h.literalSpelling_of_template kind_eq, ← not_or, not_not]
    exact inside

theorem Spelt.literalSpelling_of_mistaken (mistaken : n.Mistaken) :
    LiteralSpelling n.compact.points := by
  cases mistaken with
  | name kind_eq text_ne spelling => rwa [h.literalSpelling_of_name kind_eq]
  | other kind_ne no_literal spelling => exact spelling

/-- **All other nodes are taken for what they are.** -/
theorem Spelt.literalSpelling_iff_isLiteral (not_overlooked : ¬n.Overlooked)
    (not_mistaken : ¬n.Mistaken) : LiteralSpelling n.compact.points ↔ n.IsLiteral := by
  by_cases hKind : n.kind ∈ spelledKinds
  · simp only [spelledKinds, List.mem_append, List.mem_cons, List.not_mem_nil, or_false] at hKind
    rcases hKind with (number | string | template | name | parenthesized) | word
    · rw [h.literalSpelling_of_number number, and_iff_left_iff_imp]
      intro literal
      by_contra spelling
      exact not_overlooked (.number (.inl number) literal spelling)
    · refine iff_of_true ?_ (isLiteral_of_string string)
      rw [h.literalSpelling_of_string string]
      exact fun quote hQuote inside => not_overlooked (.string string hQuote inside)
    · rw [h.literalSpelling_of_template template]
      refine ⟨fun plain => h.isLiteral_of_no_dollar template plain.2, fun literal => ?_⟩
      rw [← not_or]
      exact fun inside => not_overlooked (.template template literal inside)
    · rw [h.literalSpelling_of_name name, isLiteral_iff_of_name name]
      refine ⟨fun spelling => ?_, fun text_eq => ?_⟩
      · by_contra text_ne
        exact not_mistaken (.name name text_ne spelling)
      · refine ⟨"undefined", by decide, ?_⟩
        rw [points, text_eq]
        exact spells_self _
    · refine iff_of_false (h.not_literalSpelling_of_parenthesized parenthesized) fun literal => ?_
      exact not_overlooked (.parenthesized parenthesized literal)
    · refine iff_of_true ?_ (isLiteral_of_word word)
      rw [h.compact_of_word word]
      exact .word word (spells_self _)
  · constructor
    · intro spelling
      by_contra no_literal
      exact not_mistaken (.other hKind no_literal spelling)
    · intro literal
      by_cases unary : n.kind = "unary_expression"
      · rw [h.literalSpelling_of_signed unary literal]
        by_contra spelling
        exact not_overlooked (.number (.inr unary) literal spelling)
      · exact absurd literal (not_isLiteral_of_other hKind unary)

end

end Node

end Syntax

open Syntax

/-! ### Expectations -/

/-- **A chain expects a node**: it begins with `expect`, and the node is the first argument. -/
def Syntax.Located.Expects (l : Located) (n : Node) : Prop :=
  ∃ args rest,
    Reading.withoutModule l.node.links = { name := "expect", args := some args } :: rest ∧
      args.operands.head? = some n

namespace Rules

/-- **What a chain asserts is about the node that it expects.** -/
theorem subject_of_expects {b : Body} {l : Located} {n : Node} {a : Assertion}
    (h : l.Expects n) (ha : a ∈ b.assertionsAt l) :
    a.subject = n.compact ∧ (a.style = .expect ∨ a.style = .chai) := by
  obtain ⟨args, rest, links_eq, hArg⟩ := h
  have texts_eq : (Reading.texts args).headD "" = n.compact := by
    obtain ⟨more, operands_eq⟩ := List.head?_eq_some_iff.mp hArg
    rw [Reading.texts, operands_eq]
    rfl
  have read_eq : Reading.ofLinks l.node.links = Reading.ofExpected args [] rest := by
    rw [Reading.ofLinks, links_eq]
    rfl
  obtain ⟨told, hTold, rfl⟩ := List.mem_map.mp ha
  show told.subject = n.compact ∧ (told.style = .expect ∨ told.style = .chai)
  rw [Body.readingAt] at hTold
  split at hTold
  · rw [read_eq, Reading.ofExpected] at hTold
    split at hTold
    · cases hTold
    · replace hTold : told ∈
        (Reading.ofTail .expect ((Reading.texts args).headD "") [] rest).assertions := hTold
      rw [texts_eq, Reading.ofTail] at hTold
      split at hTold
      · cases hTold
      · split at hTold
        · cases hTold
        · obtain rfl := List.mem_singleton.mp hTold
          refine ⟨rfl, ?_⟩
          dsimp only
          split
          · exact .inr rfl
          · exact .inl rfl
  · cases hTold

/-- **An expectation is trivial** if the text of what is expected is that of a literal. -/
theorem trivial_iff_of_expects {b : Body} {l : Located} {n : Node} {a : Assertion}
    (h : l.Expects n) (ha : a ∈ b.assertionsAt l) (ctx : RuleContext) :
    trivialAssertion.found (ctx.alone a) ≠ [] ↔ isLiteralText n.compact = true := by
  obtain ⟨subject_eq, style⟩ := subject_of_expects h ha
  have found_iff : trivialAssertion.found (ctx.alone a) ≠ [] ↔ hasLiteralSubject a = true := by
    rw [found_alone trivialAssertion_tellsOfEach, trivialFinding?]
    split <;> simp_all
  have some_text : isLiteralText a.subject = true → a.subject ≠ "" := by
    intro hLiteral subject_empty
    rw [subject_empty] at hLiteral
    obtain ⟨c, rest, points_eq, -⟩ := (isLiteralText_iff.mp hLiteral).exists_cons
    cases points_eq
  rw [found_iff, hasLiteralSubject_iff, ← subject_eq]
  constructor
  · exact fun both => both.2.2
  · intro hLiteral
    refine ⟨?_, some_text hLiteral, hLiteral⟩
    rcases style with style | style <;> rw [style] <;> decide

/-- **What is reported as trivial is told by its spelling.** The rule tells of the assertions of the
active tests one by one, and of an expectation if the text of what is expected is that of a literal.
Where a node is spelt as its kind is, that is so if it is a literal; but the literals that are
overlooked are not told of, and what is mistaken for a literal is. -/
theorem trivial_by_spelling (ctx : RuleContext) :
    trivialAssertion.run ctx = .ok ((activeAssertions ctx.suite).flatMap fun x =>
        trivialAssertion.found (ctx.alone x.2)) ∧
      (∀ (n : Node) (b : Body) (l : Located), l.Expects n → ∀ a ∈ b.assertionsAt l,
        (trivialAssertion.found (ctx.alone a) ≠ [] ↔ isLiteralText n.compact = true)) ∧
      ∀ n : Node, n.Spelt →
        (n.Overlooked → n.IsLiteral ∧ isLiteralText n.compact = false) ∧
        (n.Mistaken → ¬n.IsLiteral ∧ isLiteralText n.compact = true) ∧
        (¬n.Overlooked → ¬n.Mistaken → (isLiteralText n.compact = true ↔ n.IsLiteral)) := by
  refine ⟨run_eq_flatMap_alone trivialAssertion_tellsOfEach ctx, fun n b l h a ha => ?_,
    fun n h => ⟨fun overlooked => ⟨overlooked.isLiteral, ?_⟩,
      fun mistaken => ⟨mistaken.not_isLiteral, ?_⟩, fun not_overlooked not_mistaken => ?_⟩⟩
  · exact trivial_iff_of_expects h ha ctx
  · rw [← Bool.not_eq_true, Node.isLiteralText_compact_iff_spelling]
    exact h.not_literalSpelling_of_overlooked overlooked
  · rw [Node.isLiteralText_compact_iff_spelling]
    exact h.literalSpelling_of_mistaken mistaken
  · rw [Node.isLiteralText_compact_iff_spelling]
    exact h.literalSpelling_iff_isLiteral not_overlooked not_mistaken

/-- The chain `expect(n).toBe()`. -/
def expectation (n : Node) : Located :=
  let node (kind field text : String) (children : List Node) : Node :=
    .mk { kind, field, text } children
  let expects := node "call_expression" "object" ""
    [node "identifier" "function" "expect" [], node "arguments" "arguments" "" [n]]
  { node := node "call_expression" "" ""
      [node "member_expression" "function" ""
        [expects, node "property_identifier" "property" "toBe" []],
      node "arguments" "arguments" "" []] }

/-- A string with an escaped mark: `'it\'s'`. -/
def escapedMark : Node :=
  .mk { kind := "string", text := "'it\\'s'" } []

/-- A name that is one of the four words in capitals: `NULL`. -/
def capitalNull : Node :=
  .mk { kind := "identifier", text := "NULL" } []

/-- The string is a literal and is not reported; the name is none and is. -/
theorem trivial_by_spelling_both_ways :
    ∃ ctx : RuleContext, ∃ b : Body,
      escapedMark.Spelt ∧ escapedMark.IsLiteral ∧ (expectation escapedMark).Expects escapedMark ∧
      (∃ a ∈ b.assertionsAt (expectation escapedMark), trivialAssertion.found (ctx.alone a) = []) ∧
      capitalNull.Spelt ∧ ¬capitalNull.IsLiteral ∧ (expectation capitalNull).Expects capitalNull ∧
      ∃ a ∈ b.assertionsAt (expectation capitalNull),
        trivialAssertion.found (ctx.alone a) ≠ [] := by
  have escaped_spelt : escapedMark.Spelt := by
    refine ⟨nofun, nofun, fun _ => ?_, nofun, fun h => absurd h (by decide), nofun, nofun⟩
    exact ⟨.char '\'', (Text.ofString "it\\'s").points, .inl rfl, by decide⟩
  have null_spelt : capitalNull.Spelt := by
    refine ⟨nofun, nofun, nofun, nofun, fun h => absurd h (by decide), fun _ => ?_, nofun⟩
    exact ⟨by decide, by decide⟩
  have escaped_overlooked : escapedMark.Overlooked :=
    .string rfl rfl (by decide)
  have null_spelling : Spells "null".toList capitalNull.points :=
    .cons (by decide) (.cons (by decide) (.cons (by decide) (.cons (by decide) .nil)))
  have null_mistaken : capitalNull.Mistaken :=
    .name rfl (by decide) ⟨"null", by decide, null_spelling⟩
  let ctx : RuleContext := { suite := {} }
  obtain ⟨-, chains, nodes⟩ := trivial_by_spelling ctx
  obtain ⟨escaped_literal, escaped_text⟩ := (nodes _ escaped_spelt).1 escaped_overlooked
  obtain ⟨null_no_literal, null_text⟩ := (nodes _ null_spelt).2.1 null_mistaken
  have asserts : ∀ n ∈ [escapedMark, capitalNull],
      Body.assertionsAt default (expectation n) ≠ [] := by
    have none_empty : ∀ n ∈ [escapedMark, capitalNull],
        (Body.assertionsAt default (expectation n)).isEmpty = false := by
      simp only [List.forall_mem_cons]
      exact ⟨by decide +kernel, by decide +kernel, nofun⟩
    exact fun n hn => List.isEmpty_eq_false_iff.mp (none_empty n hn)
  obtain ⟨a, ha⟩ := List.exists_mem_of_ne_nil _ (asserts escapedMark (by simp))
  obtain ⟨a', ha'⟩ := List.exists_mem_of_ne_nil _ (asserts capitalNull (by simp))
  have escaped_expected : (expectation escapedMark).Expects escapedMark := ⟨_, _, rfl, rfl⟩
  have null_expected : (expectation capitalNull).Expects capitalNull := ⟨_, _, rfl, rfl⟩
  refine ⟨ctx, default, escaped_spelt, escaped_literal, escaped_expected, ⟨a, ha, ?_⟩, null_spelt,
    null_no_literal, null_expected, a', ha', (chains _ _ _ null_expected a' ha').mpr null_text⟩
  by_contra reported
  have := (chains _ _ _ escaped_expected a ha).mp reported
  rw [escaped_text] at this
  cases this

end Rules

end SuiteAudit
