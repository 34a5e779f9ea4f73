import Mathlib.Data.List.Infix
import SuiteAudit.Proofs.SpareTests

/-!
# Which names cover a failure

An error test names a failure where the type of the error occurs in what one of its error assertions
says, be it a name of its own there or a part of a longer one. A name is a longest run of the
characters of names, so a type occurs in a text exactly if it occurs in one of the names
(`exists_mem_names_iff`). Hence the test that names `RangeError` covers the `Error` of the same
function too (`named_types`).
-/

namespace SuiteAudit.Chars

variable {part a b s : List CodePoint} {c : CodePoint}

theorem contains_eq_true_iff : contains part s = true ↔ part <:+: s := by
  induction s with
  | nil => simp [contains]
  | cons c rest ih => simp [contains, ih, List.infix_cons_iff]

/-- What does not hold `c` and starts a text starts before the first `c`. -/
theorem prefix_append_cons_iff (hc : c ∉ part) : part <+: a ++ c :: b ↔ part <+: a := by
  constructor
  · intro h
    have whole : a ++ [c] <+: a ++ c :: b := ⟨b, by simp⟩
    obtain hShort | hLong := List.prefix_or_prefix_of_prefix h whole
    · rcases List.prefix_concat_iff.mp hShort with rfl | hPart
      · simp at hc
      · exact hPart
    · exact absurd (hLong.subset (by simp)) hc
  · exact fun h => h.trans (List.prefix_append a _)

/-- What does not hold `c` stands on one side of it. -/
theorem infix_append_cons_iff (hPart : part ≠ []) (hc : c ∉ part) :
    part <:+: a ++ c :: b ↔ part <:+: a ∨ part <:+: b := by
  -- An occurrence starts before `c`, and then it ends there too, or behind it.
  induction a with
  | nil =>
    have no_start : ¬ part <+: c :: b := fun h =>
      hPart (List.prefix_nil.mp ((prefix_append_cons_iff (a := []) hc).mp h))
    rw [List.nil_append, List.infix_cons_iff, or_iff_right no_start, List.infix_nil,
      or_iff_right hPart]
  | cons x a ih =>
    rw [List.cons_append, List.infix_cons_iff, ih, ← List.cons_append, prefix_append_cons_iff hc,
      List.infix_cons_iff, or_assoc]

/-- **What holds no character of `p` occurs in a text exactly if it occurs in a piece** between such
characters. -/
theorem exists_mem_split_iff {p : CodePoint → Bool} (hPart : part ≠ [])
    (hp : ∀ c ∈ part, p c = false) : (∃ w ∈ split p s, part <:+: w) ↔ part <:+: s := by
  -- Along the text: the current piece and the rest together still hold all that can be found.
  have from_piece (piece : List CodePoint) :
      (∃ w ∈ splitFrom p piece s, part <:+: w) ↔ part <:+: piece.reverse ++ s := by
    induction s generalizing piece with
    | nil => simp [splitFrom]
    | cons c rest ih =>
      by_cases h : p c = true
      · have hc : c ∉ part := fun hMem => by simp [hp c hMem] at h
        rw [splitFrom, if_pos h, infix_append_cons_iff hPart hc]
        simp [ih]
      · rw [splitFrom, if_neg h, ih]
        simp
  exact from_piece []

end SuiteAudit.Chars

namespace SuiteAudit

theorem Text.contains_self (s : Text) : Text.contains s s = true :=
  Chars.contains_eq_true_iff.mpr List.infix_rfl

namespace Rules

open Text

/-! ### Names in a text -/

section

variable (inName : CodePoint → Bool)

/-- **The names in a text**: its longest runs of the characters of names. -/
def names (s : Text) : List Text :=
  ((Chars.split (!inName ·) s.points).filter (!·.isEmpty)).map Text.mk

/-- Whether a text is a name. -/
def IsName (s : Text) : Prop :=
  s.points ≠ [] ∧ ∀ c ∈ s.points, inName c = true

instance (s : Text) : Decidable (IsName inName s) :=
  inferInstanceAs (Decidable (_ ∧ _))

/-- **The names in what the error assertions of a test say.** -/
def errorNames (t : TestCase) : List Text :=
  (t.assertions.filter fun a => a.isErrorAssertion || a.inCatch).flatMap fun a =>
    (a.subject :: a.args).flatMap (names inName)

variable {inName} {s type : Text} {t : TestCase} {fact : ThrowSite}

/-- A name occurs in a text exactly if it occurs in one of the names there. -/
theorem exists_mem_names_iff (hType : IsName inName type) :
    (∃ name ∈ names inName s, Text.contains name type = true) ↔ Text.contains s type = true := by
  have letters (c : CodePoint) (hc : c ∈ type.points) : (!inName c) = false := by
    simp [hType.2 c hc]
  rw [Text.contains, Chars.contains_eq_true_iff, ← Chars.exists_mem_split_iff hType.1 letters]
  simp only [names, Text.contains, Chars.contains_eq_true_iff, List.mem_map, List.mem_filter]
  constructor
  · rintro ⟨_, ⟨w, ⟨hw, -⟩, rfl⟩, hIn⟩
    exact ⟨w, hw, hIn⟩
  · rintro ⟨w, hw, hIn⟩
    refine ⟨⟨w⟩, ⟨w, ⟨hw, ?_⟩, rfl⟩, hIn⟩
    rw [Bool.not_eq_true', List.isEmpty_eq_false_iff]
    rintro rfl
    exact hType.1 (List.infix_nil.mp hIn)

/-- No name runs over the blank between two texts. -/
theorem contains_join_iff (hBlank : inName ' ' = false) (hType : IsName inName type)
    (parts : List Text) :
    Text.contains (Text.join " " parts) type = true ↔
      ∃ s ∈ parts, Text.contains s type = true := by
  have noBlank : (' ' : CodePoint) ∉ type.points := fun h => by
    simp [hType.2 _ h] at hBlank
  simp only [Text.contains, Chars.contains_eq_true_iff]
  match parts with
  | [] => simpa [Text.join, Text.ofString] using hType.1
  | s :: rest =>
    rw [List.exists_mem_cons_iff]
    show type.points <:+: s.points ++
      rest.flatMap (fun part => (' ' : CodePoint) :: part.points) ↔ _
    induction rest generalizing s with
    | nil => simp
    | cons next rest ih =>
      rw [List.flatMap_cons, List.cons_append, Chars.infix_append_cons_iff hType.1 noBlank, ih,
        List.exists_mem_cons_iff]

theorem exists_mem_errorNames_iff (hType : IsName inName type) :
    (∃ name ∈ errorNames inName t, Text.contains name type = true) ↔
      ∃ a ∈ t.assertions, (a.isErrorAssertion || a.inCatch) = true ∧
        ∃ s ∈ a.subject :: a.args, Text.contains s type = true := by
  simp only [errorNames, List.mem_flatMap, List.mem_filter]
  constructor
  · rintro ⟨name, ⟨a, ⟨ha, hError⟩, s, hs, hName⟩, hIn⟩
    exact ⟨a, ha, hError, s, hs, (exists_mem_names_iff hType).mp ⟨name, hName, hIn⟩⟩
  · rintro ⟨a, ha, hError, s, hs, hIn⟩
    obtain ⟨name, hName, hIn⟩ := (exists_mem_names_iff hType).mpr hIn
    exact ⟨name, ⟨a, ⟨ha, hError⟩, s, hs, hName⟩, hIn⟩

/-- **A test names a failure** exactly if it calls the function and the type occurs in a name of its
error assertions. -/
theorem namesThrow_iff (hBlank : inName ' ' = false) (hType : IsName inName fact.errorType)
    (hMessage : fact.message = "") :
    namesThrow t fact = true ↔
      t.callsFunction fact.function = true ∧
        ∃ name ∈ errorNames inName t, Text.contains name fact.errorType = true := by
  have hNonempty : fact.errorType ≠ "" := fun h => hType.1 (by rw [h]; rfl)
  simp only [namesThrow, hMessage, bne_self_eq_false, Bool.false_and, Bool.or_false,
    Bool.and_eq_true, List.any_eq_true, bne_iff_ne, ne_eq, hNonempty, not_false_eq_true, true_and,
    contains_join_iff hBlank hType, exists_mem_errorNames_iff hType]

end

/-! ### Failures named by type -/

section

variable (inName : CodePoint → Bool) (tests : List TestCase) (throws : List ThrowSite)

/-- **Whether the type of the failure stands as a name of its own** in an error assertion of a test
that calls the function. -/
def NamedWhole (fact : ThrowSite) : Prop :=
  ∃ t ∈ tests, t.callsFunction fact.function = true ∧ fact.errorType ∈ errorNames inName t

/-- **Whether a longer name holds the type of the failure**, in an error assertion of a test that
calls the function. -/
def NamedInLonger (fact : ThrowSite) : Prop :=
  ∃ t ∈ tests, t.callsFunction fact.function = true ∧
    ∃ name ∈ errorNames inName t, name ≠ fact.errorType ∧
      Text.contains name fact.errorType = true

variable {inName tests throws}

theorem mem_namedThrows_iff {p : ThrowSite × Nat} (hp : p ∈ throws.zipIdx) :
    p ∈ namedThrows tests throws ↔ ∃ t ∈ tests, namesThrow t p.1 = true := by
  simp [namedThrows, hp, typedMatch?]

theorem exists_namesThrow_iff {fact : ThrowSite} (hBlank : inName ' ' = false)
    (hType : IsName inName fact.errorType) (hMessage : fact.message = "") :
    (∃ t ∈ tests, namesThrow t fact = true) ↔
      NamedWhole inName tests fact ∨ NamedInLonger inName tests fact := by
  simp only [namesThrow_iff hBlank hType hMessage]
  constructor
  · rintro ⟨t, ht, hCalls, name, hName, hIn⟩
    by_cases hWhole : name = fact.errorType
    · exact .inl ⟨t, ht, hCalls, hWhole ▸ hName⟩
    · exact .inr ⟨t, ht, hCalls, name, hName, hWhole, hIn⟩
  · rintro (⟨t, ht, hCalls, hName⟩ | ⟨t, ht, hCalls, name, hName, -, hIn⟩)
    · exact ⟨t, ht, hCalls, fact.errorType, hName, contains_self _⟩
    · exact ⟨t, ht, hCalls, name, hName, hIn⟩

/-- What a test names is covered. -/
theorem mem_coveredThrows_of_namesThrow {t : TestCase} (ht : t ∈ tests) {p : ThrowSite × Nat}
    (hp : p ∈ throws.zipIdx) (h : namesThrow t p.1 = true) : p.2 ∈ coveredThrows tests throws := by
  rw [coveredThrows_eq]
  exact List.mem_append_left _ (List.mem_map_of_mem ((mem_namedThrows_iff hp).mpr ⟨t, ht, h⟩))

/-- A single test that names some failure is not spare. -/
theorem spareTests_singleton {t : TestCase} (h : namedThrows [t] throws ≠ []) :
    spareTests [t] throws = [] := by
  obtain ⟨p, hp⟩ := List.exists_mem_of_ne_nil _ h
  have hFact : p ∈ throws.zipIdx := (List.mem_filter.mp hp).1
  obtain ⟨t', ht', hNames⟩ := (mem_namedThrows_iff hFact).mp hp
  obtain rfl := List.mem_singleton.mp ht'
  -- It is the first to name that failure, so its index is used up.
  have first : typedMatch? [t'] p.1 = some 0 := by simp [typedMatch?, hNames]
  refine List.eq_nil_iff_forall_not_mem.mpr fun i hi => ?_
  obtain ⟨hLt, hNone⟩ := (mem_spareTests_iff [t'] throws).mp hi
  obtain rfl : i = 0 := by simpa using hLt
  exact hNone p.1 (List.fst_mem_of_mem_zipIdx hFact) first

end

/-- **A type covers by its letters.** Whatever characters names are made of, the blank excepted, a
failure without a message counts as named exactly if a test that calls its function has the type in
a name of its error assertions: as the whole name, or as a part of a longer one. So a test covers,
with the type it names, every failure of the functions it calls whose type is a part of that name.
A single test that names any failure covers no others than these. -/
theorem named_types {inName : CodePoint → Bool} (tests : List TestCase) (throws : List ThrowSite)
    (hBlank : inName ' ' = false)
    (plain : ∀ fact ∈ throws, IsName inName fact.errorType ∧ fact.message = "") :
    (∀ p ∈ throws.zipIdx, p ∈ namedThrows tests throws ↔
        NamedWhole inName tests p.1 ∨ NamedInLonger inName tests p.1) ∧
      (∀ t ∈ tests, ∀ p ∈ throws.zipIdx, ∀ q ∈ throws.zipIdx,
        t.callsFunction p.1.function = true → t.callsFunction q.1.function = true →
        q.1.errorType ∈ errorNames inName t → Text.contains q.1.errorType p.1.errorType = true →
        p.2 ∈ coveredThrows tests throws ∧ q.2 ∈ coveredThrows tests throws) ∧
      ∀ t, tests = [t] → namedThrows tests throws ≠ [] → ∀ p ∈ throws.zipIdx,
        (p.2 ∈ coveredThrows tests throws ↔
          NamedWhole inName tests p.1 ∨ NamedInLonger inName tests p.1) := by
  have plainAt (p : ThrowSite × Nat) (hp : p ∈ throws.zipIdx) :=
    plain p.1 (List.fst_mem_of_mem_zipIdx hp)
  have named (p : ThrowSite × Nat) (hp : p ∈ throws.zipIdx) :
      p ∈ namedThrows tests throws ↔
        NamedWhole inName tests p.1 ∨ NamedInLonger inName tests p.1 :=
    (mem_namedThrows_iff hp).trans
      (exists_namesThrow_iff hBlank (plainAt p hp).1 (plainAt p hp).2)
  refine ⟨named, ?_, ?_⟩
  · intro t ht p hp q hq hCallsP hCallsQ hName hIn
    have names (r : ThrowSite × Nat) (hr : r ∈ throws.zipIdx)
        (hCalls : t.callsFunction r.1.function = true)
        (hIn : Text.contains q.1.errorType r.1.errorType = true) :
        r.2 ∈ coveredThrows tests throws :=
      mem_coveredThrows_of_namesThrow ht hr
        ((namesThrow_iff hBlank (plainAt r hr).1 (plainAt r hr).2).mpr
          ⟨hCalls, q.1.errorType, hName, hIn⟩)
    exact ⟨names p hp hCallsP hIn, names q hq hCallsQ (contains_self _)⟩
  · rintro t rfl hNamed p hp
    rw [← named p hp, mem_coveredThrows_iff [t] throws hp, spareTests_singleton hNamed]
    simp [namedThrows, hp]

/-- A test that asserts only a `RangeError` covers the plain `Error` of the function too. -/
theorem named_types_part :
    let inName (c : CodePoint) : Bool := Text.isWord c || c == '$'
    let tests : List TestCase :=
      [{ name := "rejects", calls := ["f"],
         assertions :=
           [{ matcher := "toThrow", subject := "() => f(-1)", args := ["RangeError"] }] }]
    let throws : List ThrowSite :=
      [{ function := "f", condition := "n < 0", line := 2, errorType := "RangeError" },
       { function := "f", condition := "n > 9", line := 3, errorType := "Error" }]
    tests.flatMap (errorNames inName) = ["f", "1", "RangeError"] ∧
      ¬ NamedWhole inName tests throws[1] ∧
      0 ∈ coveredThrows tests throws ∧ 1 ∈ coveredThrows tests throws := by
  intro inName tests throws
  have said : tests.flatMap (errorNames inName) = ["f", "1", "RangeError"] := by decide +kernel
  have plain : ∀ fact ∈ throws, IsName inName fact.errorType ∧ fact.message = "" := by
    decide +kernel
  obtain ⟨-, covers, -⟩ := named_types tests throws (by decide) plain
  have both := covers tests[0] (by decide) (throws[1], 1) (by decide) (throws[0], 0) (by decide)
    (by decide) (by decide) (by decide +kernel) (by decide)
  refine ⟨said, ?_, both.2, both.1⟩
  rintro ⟨t, ht, -, hName⟩
  have := said ▸ List.mem_flatMap.mpr ⟨t, ht, hName⟩
  revert this
  decide

end Rules

end SuiteAudit
