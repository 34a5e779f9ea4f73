import SuiteAudit.Directive
import SuiteAudit.Proofs.PatternEnds
import SuiteAudit.Rule.Registry

/-!
# Words of directives

The head of a comment makes a directive of the word that follows `testgrade-`. The word is searched
for its start alone: one of the five keywords, and then anything but a word character. A hyphen is
no word character, so a keyword that a hyphen continues is read as the keyword. `kind_ofLine?` says
what each line gives, word by word, and `directive_words` tells when no line of a file gives
anything.
-/

namespace SuiteAudit

open Text

/-! ### Words after the head of a comment -/

namespace Directive

/-- What follows `testgrade-`, where a comment starts with that. -/
def afterHead? (s : List CodePoint) : Option (List CodePoint) :=
  if (["//", "/*"] : List Text).any (·.points <+: s) then
    let inside := (s.drop 2).dropWhile isBlank
    if ("testgrade-" : Text).points <+: inside then
      some (inside.drop ("testgrade-" : Text).length)
    else none
  else none

/-- The word that a text starts with: up to a blank, a comma or the end of the comment. -/
def wordOf (s : List CodePoint) : Text :=
  ⟨Chars.beforeText ['*', '/'] (s.takeWhile fun c => !(isBlank c || c == ','))⟩

/-- **The words of a line that follow `testgrade-` at the start of a comment**, in order. -/
def commentWords (line : Text) : List Text :=
  line.points.tails.filterMap fun s => (afterHead? s).map wordOf

/-- Whether a text starts with a keyword that no word character continues. -/
def startsWith (keyword : Text) (s : List CodePoint) : Bool :=
  keyword.points <+: s && !(s.drop keyword.length).head?.any isWord

/-- The keyword that a text is read as, with its kind. -/
def readAs? (s : List CodePoint) : Option (Text × DirectiveKind) :=
  words.find? fun e => startsWith e.1 s

/-- **What a word is read as**: the first keyword that it starts with and that no word character
continues. -/
def kindOfWord? (w : Text) : Option DirectiveKind :=
  (readAs? w.points).map (·.2)

/-- A match of the head of a directive goes on from what follows `testgrade-`. -/
theorem ends_head (at_ : Cursor) :
    (afterHead? at_.rest = none ∧ pattern.ends at_ = []) ∨
      ∃ head : Cursor, afterHead? at_.rest = some head.rest ∧ head.kept = at_.kept ∧
        pattern.ends at_ =
          (Pattern.all [.group (Pattern.texts (words.map (·.1))), .wordEdge]).ends head := by
  have opened : (Pattern.texts ["//", "/*"]).ends at_ =
      if (["//", "/*"] : List Text).any (·.points <+: at_.rest) then [at_.skip 2] else [] := by
    have apart : ¬ (("//" : Text).points <+: at_.rest ∧ ("/*" : Text).points <+: at_.rest) :=
      fun ⟨line, block⟩ =>
        absurd (List.prefix_of_prefix_length_le line block (by decide)) (by decide)
    have two : ∀ s ∈ (["//", "/*"] : List Text), s.points.length = 2 := by decide
    rw [Pattern.ends_texts]
    by_cases line : ("//" : Text).points <+: at_.rest
    · have block : ¬ ("/*" : Text).points <+: at_.rest := fun block => apart ⟨line, block⟩
      simp [line, block, two]
    · by_cases block : ("/*" : Text).points <+: at_.rest <;>
        simp [line, block, two]
  have skipped (c : Cursor) :
      Pattern.blanks.ends c = [c.skip (Pattern.runLength isBlank 0 c.rest)] := rfl
  unfold pattern
  rw [Pattern.ends_all_cons, opened]
  by_cases hOpen : ((["//", "/*"] : List Text).any (·.points <+: at_.rest)) = true
  · rw [if_pos hOpen, List.flatMap_singleton, Pattern.ends_all_cons, skipped,
      List.flatMap_singleton, Pattern.ends_all_cons, Pattern.ends_text, Pattern.rest_run,
      Cursor.rest_skip]
    unfold afterHead?
    rw [if_pos hOpen]
    dsimp only
    by_cases hName : ("testgrade-" : Text).points <+: (at_.rest.drop 2).dropWhile isBlank
    · refine .inr ⟨((at_.skip 2).skip (Pattern.runLength isBlank 0 (at_.skip 2).rest)).skip
        ("testgrade-" : Text).points.length, ?_, ?_, ?_⟩
      · rw [if_pos hName, Cursor.rest_skip, Pattern.rest_run, Cursor.rest_skip]
        rfl
      · rw [Cursor.kept_skip, Cursor.kept_skip, Cursor.kept_skip]
      · rw [if_pos hName, List.flatMap_singleton, Cursor.rest_skip]
    · exact .inl ⟨if_neg hName, by rw [if_neg hName, List.flatMap_nil]⟩
  · refine .inl ⟨if_neg hOpen, ?_⟩
    rw [if_neg hOpen, List.flatMap_nil]

/-- The place after a keyword, which is kept. -/
def afterKeyword (head : Cursor) (keyword : Text) : Cursor :=
  { head.skip keyword.points.length with
    kept := (head.rest, keyword.points.length) :: head.kept }

/-- Keywords end in a word character, so no word goes on after them. -/
theorem isWordEdge_afterKeyword {head : Cursor} {keyword : Text}
    (h : keyword.points <+: head.rest) (hWord : keyword.points.getLast?.any isWord = true) :
    (afterKeyword head keyword).isWordEdge =
      !(head.rest.drop keyword.points.length).head?.any isWord := by
  have hs : keyword.points ≠ [] := by
    intro h
    simp [h] at hWord
  have last : (afterKeyword head keyword).last = keyword.points.getLast? :=
    Cursor.last_skip h hs
  have rest : (afterKeyword head keyword).rest = head.rest.drop keyword.points.length :=
    head.rest_skip keyword.points.length
  rw [Cursor.isWordEdge, last, rest, hWord, Bool.true_bne]

theorem flatMap_ite_singleton {α β : Type} (p : α → Bool) (f : α → β) (xs : List α) :
    (xs.flatMap fun x => if p x then [f x] else []) = (xs.filter p).map f := by
  induction xs with
  | nil => rfl
  | cons x xs ih =>
    rw [List.flatMap_cons, ih, List.filter_cons]
    cases p x <;> rfl

/-- **The keywords that a match reads**, in order. -/
theorem ends_keyword (head : Cursor) :
    (Pattern.all [.group (Pattern.texts (words.map (·.1))), .wordEdge]).ends head =
      (words.filter fun e => startsWith e.1 head.rest).map fun e => afterKeyword head e.1 := by
  have ending : ∀ e ∈ words, e.1.points.getLast?.any isWord = true := by decide
  have kept : (Pattern.group (Pattern.texts (words.map (·.1)))).ends head =
      (words.filter fun e => e.1.points <+: head.rest).map fun e => afterKeyword head e.1 := by
    have length_eq (e : Text × DirectiveKind) :
        (head.skip e.1.points.length).index - head.index = e.1.points.length := by
      rw [Cursor.index_skip, Nat.add_sub_cancel_left]
    rw [Pattern.ends, Pattern.ends_texts, List.filter_map, List.map_map, List.map_map]
    apply List.map_congr_left
    intro e _
    simp only [Function.comp_apply, length_eq, Cursor.kept_skip]
    rfl
  calc
    (Pattern.all [.group (Pattern.texts (words.map (·.1))), .wordEdge]).ends head
        = ((words.filter fun e => e.1.points <+: head.rest).map fun e =>
            afterKeyword head e.1).flatMap fun c => if c.isWordEdge then [c] else [] := by
          rw [Pattern.ends_all_cons, kept]
          rfl
    _ = (words.filter fun e => e.1.points <+: head.rest).flatMap fun e =>
          if (afterKeyword head e.1).isWordEdge then [afterKeyword head e.1] else [] :=
        List.flatMap_map ..
    _ = ((words.filter fun e => e.1.points <+: head.rest).filter fun e =>
          (afterKeyword head e.1).isWordEdge).map fun e => afterKeyword head e.1 :=
        flatMap_ite_singleton ..
    _ = (words.filter fun e => startsWith e.1 head.rest).map fun e => afterKeyword head e.1 := by
        rw [List.filter_filter]
        congr 1
        apply List.filter_congr
        intro e he
        by_cases h : e.1.points <+: head.rest
        · simp only [h, decide_true, Bool.and_true, Bool.true_and, startsWith,
            isWordEdge_afterKeyword h (ending e he)]
          rfl
        · simp [h, startsWith]

/-- **What a match gives** is the keyword that the text after `testgrade-` is read as. -/
theorem map_groups_matchAt? (last : Option CodePoint) (index : Nat) (rest : List CodePoint) :
    (pattern.matchAt? { last, index, rest, kept := [] }).map (·.groups) =
      ((afterHead? rest).bind readAs?).map fun e => [e.1] := by
  rcases ends_head { last, index, rest, kept := [] } with
    ⟨hHead, hEnds⟩ | ⟨head, hHead, hKept, hEnds⟩
  · rw [Pattern.matchAt?, hEnds, hHead]
    rfl
  · rw [Pattern.matchAt?, hEnds, hHead, ends_keyword, List.head?_map, List.head?_filter,
      Option.map_map, Option.map_map, Option.bind_some, readAs?]
    cases hFound : words.find? fun e => startsWith e.1 head.rest with
    | none => rfl
    | some e =>
      have starts := List.find?_some hFound
      simp only [startsWith, Bool.and_eq_true, decide_eq_true_eq] at starts
      obtain ⟨rest, hRest⟩ := starts.1
      simp [afterKeyword, hKept, ← hRest]

/-- **The kind of the directive of a line**, by what follows `testgrade-` in its comments. -/
theorem map_kind_ofLine? (known : Text → Bool) (line : Text) :
    (ofLine? known line).map (·.kind) =
      (line.points.tails.findSome? fun s => (afterHead? s).bind readAs?).map (·.2) := by
  have found := Pattern.map_search map_groups_matchAt? line
  have moved : (line.points.tails.findSome? fun s =>
      ((afterHead? s).bind readAs?).map fun e => [e.1]) =
        (line.points.tails.findSome? fun s => (afterHead? s).bind readAs?).map fun e => [e.1] :=
    List.map_findSome?.symm
  rw [moved] at found
  have own_kind : ∀ e ∈ words, words.lookup e.1 = some e.2 := by decide
  unfold ofLine?
  cases hEntry : line.points.tails.findSome? fun s => (afterHead? s).bind readAs? with
  | none =>
    rw [hEntry, Option.map_none, Option.map_eq_none_iff] at found
    rw [found]
    rfl
  | some e =>
    rw [hEntry, Option.map_some, Option.map_eq_some_iff] at found
    obtain ⟨⟨first, last, groups⟩, hSearch, rfl⟩ := found
    obtain ⟨s, -, hs⟩ := List.exists_of_findSome?_eq_some hEntry
    obtain ⟨t, -, ht⟩ := Option.bind_eq_some_iff.mp hs
    rw [hSearch]
    dsimp only
    rw [own_kind e (List.mem_of_find?_eq_some ht)]
    rfl

/-! ### Where words end -/

/-- Blanks are no word characters. -/
theorem isWord_of_isBlank {c : CodePoint} (h : isBlank c = true) : isWord c = false := by
  -- There are few blanks, so it is enough to look at each of them.
  let codes := List.range 0x21 ++ [0x85, 0xA0, 0x1680] ++ List.range' 0x2000 11 ++
    [0x2028, 0x2029, 0x202F, 0x205F, 0x3000]
  have listed : c.code ∈ codes := by
    simp only [isBlank, Bool.or_eq_true, Bool.and_eq_true, decide_eq_true_eq, beq_iff_eq] at h
    simp only [codes, List.mem_append, List.mem_range, List.mem_range'_1, List.mem_cons,
      List.not_mem_nil, or_false]
    omega
  have none_is_word : ∀ n ∈ codes, isBlank (.ofCode n) = true → isWord (.ofCode n) = false := by
    decide +kernel
  have := none_is_word c.code listed
  rw [CodePoint.ofCode_code] at this
  exact this h

/-- Whether a character can stand in any word of a comment. -/
def isInner (c : CodePoint) : Bool :=
  !(isBlank c || c == ',' || c == '*')

theorem wordOf_cons {c : CodePoint} (h : isInner c = true) (s : List CodePoint) :
    (wordOf (c :: s)).points = c :: (wordOf s).points := by
  simp only [isInner, Bool.not_eq_true', Bool.or_eq_false_iff, beq_eq_false_iff_ne] at h
  obtain ⟨⟨hBlank, hComma⟩, hStar⟩ := h
  simp [wordOf, Chars.beforeText, hBlank, hComma, Ne.symm hStar]

theorem head?_wordOf (s : List CodePoint) :
    (wordOf s).points.head? = none ∨ (wordOf s).points.head? = s.head? := by
  cases s with
  | nil => exact .inl rfl
  | cons c s =>
    unfold wordOf
    rw [List.takeWhile_cons]
    split
    · rw [Chars.beforeText]
      split
      · exact .inl rfl
      · exact .inr rfl
    · exact .inl rfl

/-- A word stops at no word character. -/
theorem any_head?_wordOf (s : List CodePoint) :
    (wordOf s).points.head?.any isWord = s.head?.any isWord := by
  have comma : isWord (',' : Char) = false := by decide
  have star : isWord ('*' : Char) = false := by decide
  cases s with
  | nil => rfl
  | cons c s =>
    by_cases hInner : isInner c = true
    · rw [wordOf_cons hInner]
      rfl
    · have hWord : isWord c = false := by
        simp only [isInner, Bool.not_eq_true', Bool.not_eq_false, Bool.or_eq_true, beq_iff_eq]
          at hInner
        obtain (hBlank | rfl) | rfl := hInner
        · exact isWord_of_isBlank hBlank
        · exact comma
        · exact star
      rcases head?_wordOf (c :: s) with h | h <;> simp [h, hWord]

/-- **Keywords are found in words as in the text.** -/
theorem startsWith_wordOf {keyword : Text} (h : keyword.points.all isInner = true)
    (s : List CodePoint) : startsWith keyword (wordOf s).points = startsWith keyword s := by
  obtain ⟨cs⟩ := keyword
  unfold startsWith Text.length
  dsimp only at h ⊢
  -- Along the keyword: the word and the text agree on every character of it, and on whether a word
  -- character comes next.
  induction cs generalizing s with
  | nil => simp [any_head?_wordOf]
  | cons c cs ih =>
    rw [List.all_cons, Bool.and_eq_true] at h
    cases s with
    | nil => rfl
    | cons d s =>
      by_cases hd : c = d
      · subst hd
        rw [wordOf_cons h.1]
        simpa [List.cons_prefix_cons] using ih s h.2
      · have apart : ¬ c :: cs <+: (wordOf (d :: s)).points := by
          rintro ⟨rest, hRest⟩
          have := head?_wordOf (d :: s)
          rw [← hRest] at this
          simp [hd] at this
        simp [apart, List.cons_prefix_cons, hd]

theorem readAs?_wordOf (s : List CodePoint) : readAs? (wordOf s).points = readAs? s := by
  have plain : ∀ e ∈ words, e.1.points.all isInner = true := by decide
  unfold readAs?
  rw [← List.head?_filter, ← List.head?_filter]
  congr 1
  exact List.filter_congr fun e he => startsWith_wordOf (plain e he) s

/-- **A line gives the directive of the first word that is read as one.** -/
theorem kind_ofLine? (known : Text → Bool) (line : Text) :
    (ofLine? known line).map (·.kind) = (commentWords line).findSome? kindOfWord? := by
  rw [map_kind_ofLine?, List.map_findSome?, commentWords]
  induction line.points.tails with
  | nil => rfl
  | cons s tails ih =>
    rw [List.findSome?_cons, ih, List.filterMap_cons]
    cases hHead : afterHead? s with
    | none => simp [hHead]
    | some t => simp [hHead, List.findSome?_cons, kindOfWord?, readAs?_wordOf]

/-! ### Words that are read -/

/-- A text starts with a keyword that no word character continues, just if it is the keyword or
goes on with another character. -/
theorem startsWith_iff {keyword w : Text} :
    startsWith keyword w.points = true ↔
      w = keyword ∨ ∃ c rest, w.points = keyword.points ++ c :: rest ∧ isWord c = false := by
  unfold startsWith
  rw [Bool.and_eq_true, decide_eq_true_eq]
  constructor
  · rintro ⟨⟨rest, hRest⟩, hNext⟩
    cases rest with
    | nil =>
      rw [List.append_nil] at hRest
      exact .inl (congrArg Text.mk hRest.symm)
    | cons c rest =>
      refine .inr ⟨c, rest, hRest.symm, ?_⟩
      simpa [← hRest, Text.length] using hNext
  · rintro (rfl | ⟨c, rest, hRest, hWord⟩)
    · simp [Text.length]
    · simp [hRest, Text.length, hWord]

/-- The keywords of directives. -/
def keywords : List Text :=
  words.map (·.1)

/-- **Whether a word goes on after a keyword**, with a character that is no word character. -/
def GoesOn (w : Text) : Prop :=
  ∃ keyword ∈ keywords, ∃ c rest, w.points = keyword.points ++ c :: rest ∧ isWord c = false

theorem kindOfWord?_eq_none_iff {w : Text} :
    kindOfWord? w = none ↔ w ∉ keywords ∧ ¬ GoesOn w := by
  rw [kindOfWord?, Option.map_eq_none_iff, readAs?, List.find?_eq_none]
  simp only [startsWith_iff, not_or, keywords, GoesOn, List.mem_map]
  constructor
  · intro h
    refine ⟨?_, ?_⟩
    · rintro ⟨e, he, rfl⟩
      exact (h e he).1 rfl
    · rintro ⟨_, ⟨e, he, rfl⟩, on⟩
      exact (h e he).2 on
  · rintro ⟨hWord, hOn⟩ e he
    exact ⟨fun h => hWord ⟨e, he, h.symm⟩, fun on => hOn ⟨e.1, ⟨e, he, rfl⟩, on⟩⟩

theorem ofLine?_eq_none_iff {known : Text → Bool} {line : Text} :
    ofLine? known line = none ↔ ∀ w ∈ commentWords line, w ∉ keywords ∧ ¬ GoesOn w := by
  rw [← Option.map_eq_none_iff (f := (·.kind)), kind_ofLine?, List.findSome?_eq_none_iff]
  exact forall₂_congr fun w _ => kindOfWord?_eq_none_iff

end Directive

/-! ### Files without directives -/

/-- Lines without a directive leave a reader as it is. -/
theorem readLines_of_none {known : Text → Bool} {lines : List Text}
    (h : ∀ line ∈ lines, Directive.ofLine? known line = none) (r : SilenceReader) (number : Nat) :
    SilenceReader.readLines known r number lines = r := by
  induction lines generalizing number with
  | nil => rfl
  | cons line lines ih =>
    rw [SilenceReader.readLines, h line List.mem_cons_self]
    exact ih (fun l hl => h l (List.mem_cons_of_mem line hl)) (number + 1)

theorem ofLines_of_none {known : Text → Bool} {lines : List Text}
    (h : ∀ line ∈ lines, Directive.ofLine? known line = none) :
    Silence.ofLines known lines = {} := by
  rw [Silence.ofLines, readLines_of_none h]
  rfl

theorem filter_empty (issues : List Issue) : Silence.filter {} issues = issues := by
  rw [Silence.filter, List.filter_eq_self]
  intro i _
  rfl

/-- **A word makes a directive if it starts with a keyword that no word character continues.** A
line gives what the first such word is read as. So there is no directive in a file, and its issues
stay as they are, if no comment has a keyword for its word, be it as a whole or with a hyphen or
another such character after it. -/
theorem directive_words (known : Text → Bool) (lines : List Text) :
    (∀ line, (Directive.ofLine? known line).map (·.kind) =
        (Directive.commentWords line).findSome? Directive.kindOfWord?) ∧
      (∀ line, Directive.ofLine? known line = none ↔
        ∀ w ∈ Directive.commentWords line, w ∉ Directive.keywords ∧ ¬ Directive.GoesOn w) ∧
      ((∀ line ∈ lines, ∀ w ∈ Directive.commentWords line,
          w ∉ Directive.keywords ∧ ¬ Directive.GoesOn w) →
        Silence.ofLines known lines = {} ∧
          ∀ issues, (Silence.ofLines known lines).filter issues = issues) := by
  refine ⟨Directive.kind_ofLine? known, fun line => Directive.ofLine?_eq_none_iff, fun h => ?_⟩
  have none_found (line : Text) (hLine : line ∈ lines) : Directive.ofLine? known line = none :=
    Directive.ofLine?_eq_none_iff.mpr (h line hLine)
  have empty := ofLines_of_none none_found
  exact ⟨empty, fun issues => by rw [empty, filter_empty]⟩

/-- A hyphen after `disable` silences the rest of the file, and a letter after it does nothing. -/
theorem directive_words_hyphen :
    Directive.commentWords "expect(a).toBe(b) // testgrade-disable-line" = ["disable-line"] ∧
      ("disable-line" : Text) ∉ Directive.keywords ∧ Directive.GoesOn "disable-line" ∧
      (Directive.ofLine? registry.contains "expect(a).toBe(b) // testgrade-disable-line").map
        (·.kind) = some .disable ∧
      (Silence.ofLines registry.contains ["expect(a).toBe(b) // testgrade-disable-line",
        "expect(c).toBeDefined()"]).isIgnored 2 "weak-assertion" = true ∧
      Silence.ofLines registry.contains ["expect(a).toBe(b) // testgrade-disabled",
        "expect(c).toBeDefined()"] = {} := by
  have read_word : Directive.commentWords "expect(a).toBe(b) // testgrade-disable-line" =
      ["disable-line"] := by decide
  have goes_on : Directive.GoesOn "disable-line" :=
    ⟨"disable", by decide, '-', ("line" : Text).points, by decide, by decide⟩
  have unread : ∀ line ∈ (["expect(a).toBe(b) // testgrade-disabled",
      "expect(c).toBeDefined()"] : List Text),
      ∀ w ∈ Directive.commentWords line, Directive.kindOfWord? w = none := by decide
  refine ⟨read_word, by decide, goes_on, ?_, by decide +kernel, ?_⟩
  · rw [(directive_words registry.contains []).1, read_word]
    decide
  · exact ((directive_words registry.contains _).2.2 fun line hLine w hw =>
      Directive.kindOfWord?_eq_none_iff.mp (unread line hLine w hw)).1

end SuiteAudit
