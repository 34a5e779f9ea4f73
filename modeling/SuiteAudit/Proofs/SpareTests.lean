import SuiteAudit.Proofs.CoveredThrows
import SuiteAudit.Proofs.Findings

/-!
# What spare tests are spent on

Open failures take their turns in the order of the source, and each takes a spare test that calls
its function if one is left, or else the first that is left (`turns`). It is never the test that
takes its failure: a test can be spent on a function it does not call while a failure of the
function it calls, further down, goes without. `spare_tests_in_turn` says when this happens, and that
what is reported as untested is settled by the order of the failures alone.
-/

namespace SuiteAudit.Rules

/-- Whether the test at an index calls a function. -/
def callsAt (tests : List TestCase) (t : Nat) (name : Text) : Bool :=
  tests[t]?.any fun test => test.callsFunction name

/-- Whether the test at an index names no failure at all. -/
def NamesNone (tests : List TestCase) (throws : List ThrowSite) (t : Nat) : Prop :=
  ∀ fact ∈ throws, (tests[t]?.any fun test => namesThrow test fact) = false

/-- **A test that calls the function is taken if one is left**, and else the first that is left. -/
theorem pickSpare_calls (tests : List TestCase) (fact : ThrowSite) (first : Nat)
    (others : List Nat) :
    callsAt tests (pickSpare tests fact first others) fact.function = true ∨
      pickSpare tests fact first others = first ∧
        ∀ t ∈ first :: others, callsAt tests t fact.function = false := by
  unfold pickSpare
  cases hFound : (first :: others).find? fun t =>
      tests[t]?.any fun test => test.callsFunction fact.function with
  | none =>
    refine .inr ⟨rfl, fun t ht => ?_⟩
    exact Bool.eq_false_iff.mpr (List.find?_eq_none.mp hFound t ht)
  | some t =>
    have calls := List.find?_some hFound
    exact .inl calls

/-! ### Turns -/

/-- **The turn of an open failure**: the failure with its index, the spare tests that are left, and
the one that it takes. -/
structure Turn where
  fact : ThrowSite
  index : Nat
  left : List Nat
  test : Nat

/-- The turns of open failures, as long as there are spare tests. -/
def turnsFrom (tests : List TestCase) : (open_ : List (ThrowSite × Nat)) → (spare : List Nat) →
    List Turn
  | [], _ => []
  | _, [] => []
  | (fact, index) :: rest, first :: others =>
    let test := pickSpare tests fact first others
    { fact, index, left := first :: others, test } ::
      turnsFrom tests rest ((first :: others).erase test)

section

variable (tests : List TestCase)

/-- Each turn covers its failure. -/
theorem map_index_turnsFrom (open_ : List (ThrowSite × Nat)) (spare : List Nat) :
    (turnsFrom tests open_ spare).map (·.index) = spendSpare tests open_ spare := by
  induction open_ generalizing spare with
  | nil => simp [turnsFrom, spendSpare]
  | cons p rest ih =>
    cases spare with
    | nil => simp [turnsFrom, spendSpare]
    | cons first others => exact congrArg (p.2 :: ·) (ih _)

theorem map_fact_turnsFrom (open_ : List (ThrowSite × Nat)) (spare : List Nat) :
    (turnsFrom tests open_ spare).map (fun x => (x.fact, x.index)) = open_.take spare.length := by
  induction open_ generalizing spare with
  | nil => simp [turnsFrom]
  | cons p rest ih =>
    cases spare with
    | nil => simp [turnsFrom]
    | cons first others =>
      have left := List.length_erase_of_mem (pickSpare_mem tests p.1 first others)
      rw [turnsFrom, List.map_cons, ih, left]
      rfl

/-- The first turn takes one of all spare tests, and the others go on with the rest. -/
theorem turnsFrom_eq_cons {open_ : List (ThrowSite × Nat)} {spare : List Nat} {x : Turn}
    {after : List Turn} (h : turnsFrom tests open_ spare = x :: after) :
    (∃ first others, spare = first :: others ∧ x.left = first :: others ∧
      x.test = pickSpare tests x.fact first others) ∧
    ∃ rest, turnsFrom tests rest (spare.erase x.test) = after := by
  cases open_ with
  | nil => simp [turnsFrom] at h
  | cons p rest =>
    cases spare with
    | nil => simp [turnsFrom] at h
    | cons first others =>
      obtain ⟨rfl, hAfter⟩ := List.cons.inj h
      exact ⟨⟨first, others, rfl, rfl, rfl⟩, rest, hAfter⟩

/-- **What is left at a turn** are the spare tests that no earlier turn took. -/
theorem left_of_turnsFrom {open_ : List (ThrowSite × Nat)} {spare : List Nat}
    {before after : List Turn} {x : Turn}
    (h : turnsFrom tests open_ spare = before ++ x :: after) :
    x.left = spare.diff (before.map (·.test)) ∧
      ∃ first others, x.left = first :: others ∧ x.test = pickSpare tests x.fact first others := by
  -- On the turns before: the run after the first of them starts without the test that it took.
  induction before generalizing open_ spare with
  | nil =>
    obtain ⟨⟨first, others, rfl, hLeft, hTest⟩, -⟩ := turnsFrom_eq_cons tests h
    exact ⟨by rw [hLeft, List.map_nil, List.diff_nil], first, others, hLeft, hTest⟩
  | cons y before ih =>
    obtain ⟨-, rest, hRest⟩ := turnsFrom_eq_cons tests h
    rw [List.map_cons, List.diff_cons]
    exact ih hRest

/-- Where failures are left over every spare test was taken, once. -/
theorem perm_turnsFrom {open_ : List (ThrowSite × Nat)} {spare : List Nat}
    (h : spare.length ≤ open_.length) :
    ((turnsFrom tests open_ spare).map (·.test)).Perm spare := by
  induction open_ generalizing spare with
  | nil =>
    obtain rfl : spare = [] := List.length_eq_zero_iff.mp (Nat.le_zero.mp h)
    exact List.Perm.nil
  | cons p rest ih =>
    cases spare with
    | nil => exact List.Perm.nil
    | cons first others =>
      have picked := pickSpare_mem tests p.1 first others
      have left := List.length_erase_of_mem picked
      have enough :
          ((first :: others).erase (pickSpare tests p.1 first others)).length ≤ rest.length := by
        rw [left]
        simpa using h
      have others_perm := ih enough
      exact (others_perm.cons _).trans (List.perm_cons_erase picked).symm

end

section

variable (tests : List TestCase) (throws : List ThrowSite)

/-- **The turns of the open failures.** -/
def turns : List Turn :=
  turnsFrom tests (openThrows tests throws) (spareTests tests throws)

/-- A turn takes one of the tests that are left: one that calls the function, if there is any. -/
theorem test_of_mem_turns {x : Turn} (h : x ∈ turns tests throws) :
    x.test ∈ x.left ∧
      (callsAt tests x.test x.fact.function = true ∨
        x.left.head? = some x.test ∧ ∀ t ∈ x.left, callsAt tests t x.fact.function = false) := by
  obtain ⟨before, after, hSplit⟩ := List.append_of_mem h
  obtain ⟨-, first, others, hLeft, hTest⟩ := left_of_turnsFrom tests hSplit
  rw [hLeft, hTest]
  refine ⟨pickSpare_mem tests x.fact first others, ?_⟩
  exact (pickSpare_calls tests x.fact first others).imp id fun ⟨hFirst, hNone⟩ =>
    ⟨congrArg some hFirst.symm, hNone⟩

/-! ### What is covered -/

/-- **A failure is covered** if a test names it, or if it is among the first open ones, as many as
there are spare tests. -/
theorem mem_coveredThrows_iff {p : ThrowSite × Nat} (hp : p ∈ throws.zipIdx) :
    p.2 ∈ coveredThrows tests throws ↔
      (typedMatch? tests p.1).isSome = true ∨
        p ∈ (openThrows tests throws).take (spareTests tests throws).length := by
  -- Entries of `zipIdx` are told apart by their index, so a failure that occurs twice is no trouble.
  have same_of_index {q : ThrowSite × Nat} (hq : q ∈ throws.zipIdx) (h : q.2 = p.2) : q = p := by
    rw [List.mem_zipIdx_iff_getElem?] at hp hq
    rw [h, hp] at hq
    exact Prod.ext (Option.some.inj hq).symm h
  rw [coveredThrows_eq, spendSpare_eq, List.mem_append, List.mem_map, List.mem_map]
  constructor
  · rintro (⟨q, hq, hIndex⟩ | ⟨q, hq, hIndex⟩)
    · obtain ⟨hMem, hNamed⟩ := List.mem_filter.mp hq
      obtain rfl := same_of_index hMem hIndex
      exact .inl hNamed
    · obtain rfl := same_of_index (List.mem_of_mem_filter (List.mem_of_mem_take hq)) hIndex
      exact .inr hq
  · rintro (hNamed | hTaken)
    · exact .inl ⟨p, List.mem_filter.mpr ⟨hp, hNamed⟩, rfl⟩
    · exact .inr ⟨p, hTaken, rfl⟩

theorem nodup_openThrows : (openThrows tests throws).Nodup :=
  List.Nodup.filter _ (List.Nodup.of_map (·.2) (by
    rw [List.zipIdx_map_snd]
    exact List.nodup_range'))

/-- **The failures that are not covered** are the open ones after the first, as many as there are
spare tests. -/
theorem filter_not_covered :
    (throws.zipIdx.filter fun p => !(coveredThrows tests throws).contains p.2) =
      (openThrows tests throws).drop (spareTests tests throws).length := by
  set k := (spareTests tests throws).length
  have disjoint := List.disjoint_take_drop (nodup_openThrows tests throws) (le_refl k)
  calc
    (throws.zipIdx.filter fun p => !(coveredThrows tests throws).contains p.2)
        = (openThrows tests throws).filter fun p => p ∉ (openThrows tests throws).take k := by
          rw [openThrows, List.filter_filter]
          apply List.filter_congr
          intro p hp
          rw [Bool.eq_iff_iff]
          simp only [Bool.not_eq_true', List.contains_eq_mem, decide_eq_false_iff_not,
            mem_coveredThrows_iff tests throws hp, not_or, Option.not_isSome_iff_eq_none,
            Option.isNone_iff_eq_none, Bool.and_eq_true, decide_eq_true_eq]
          exact and_comm
    _ = ((openThrows tests throws).take k ++ (openThrows tests throws).drop k).filter
          fun p => p ∉ (openThrows tests throws).take k := by rw [List.take_append_drop]
    _ = (openThrows tests throws).drop k := by
          rw [List.filter_append, List.filter_eq_nil_iff.mpr, List.filter_eq_self.mpr,
            List.nil_append]
          · intro p hp
            simpa using fun h => disjoint h hp
          · intro p hp
            simpa using hp

/-- **Reported are the open failures that have no turn**, in the order of the source. -/
theorem found_missingErrorTest {ctx : RuleContext} (h : ctx.facts.available = true) :
    missingErrorTest.found ctx =
      ((openThrows ctx.suite.errorTests ctx.facts.throws).drop
        (spareTests ctx.suite.errorTests ctx.facts.throws).length).map fun p =>
          missingErrorTest.issue (throwFinding p.1) := by
  rw [← filter_not_covered]
  unfold Rule.found Rule.run missingErrorTest
  simp [h, Except.map]

/-- **Whether spare tests are spent on the function they call**: no test that calls this one, and
names no failure, was spent on a failure of a function that it does not call. -/
def SpentOnOwn (name : Text) : Prop :=
  ∀ x ∈ turns tests throws, callsAt tests x.test name = true → NamesNone tests throws x.test →
    callsAt tests x.test x.fact.function = true

/-- A test is spent elsewhere at a turn for which nobody left calls the function, if it is the first
that is left. -/
theorem spentOnOwn_iff (name : Text) :
    SpentOnOwn tests throws name ↔
      ∀ x ∈ turns tests throws, (∀ t ∈ x.left, callsAt tests t x.fact.function = false) →
        ∀ first, x.left.head? = some first → callsAt tests first name = true →
          ¬ NamesNone tests throws first := by
  constructor
  · intro own x hx nobody first hFirst hCalls hNames
    obtain ⟨hMem, hCaller | ⟨hHead, -⟩⟩ := test_of_mem_turns tests throws hx
    · rw [nobody x.test hMem] at hCaller
      cases hCaller
    · obtain rfl : x.test = first := Option.some.inj (hHead.symm.trans hFirst)
      have := own x hx hCalls hNames
      rw [nobody x.test hMem] at this
      cases this
  · intro h x hx hCalls hNames
    obtain ⟨-, hCaller | ⟨hHead, nobody⟩⟩ := test_of_mem_turns tests throws hx
    · exact hCaller
    · exact absurd hNames (h x hx nobody x.test hHead hCalls)

theorem map_fact_turns :
    (turns tests throws).map (fun x => (x.fact, x.index)) =
      (openThrows tests throws).take (spareTests tests throws).length :=
  map_fact_turnsFrom tests _ _

/-- With one function there is no other to be spent on. -/
theorem spentOnOwn_of_one {name : Text}
    (h : ∀ p ∈ openThrows tests throws, p.1.function = name) : SpentOnOwn tests throws name := by
  intro x hx hCalls _
  have taken : (x.fact, x.index) ∈ (turns tests throws).map fun x => (x.fact, x.index) :=
    List.mem_map_of_mem hx
  rw [map_fact_turns] at taken
  rw [h _ (List.mem_of_mem_take taken)]
  exact hCalls

/-- Where a failure is not covered every spare test was spent, once. -/
theorem perm_turns {i : Nat} (hi : i < throws.length) (h : i ∉ coveredThrows tests throws) :
    ((turns tests throws).map (·.test)).Perm (spareTests tests throws) := by
  apply perm_turnsFrom
  have mem : (throws[i], i) ∈ throws.zipIdx :=
    List.mem_zipIdx_iff_getElem?.mpr (List.getElem?_eq_getElem hi)
  have left_over : (throws[i], i) ∈
      (openThrows tests throws).drop (spareTests tests throws).length := by
    rw [← filter_not_covered]
    exact List.mem_filter.mpr ⟨mem, by simpa using h⟩
  have := List.length_pos_of_mem left_over
  rw [List.length_drop] at this
  omega

end

/-- **Spare tests are spent failure by failure.** The first open failures, as many as there are
spare tests, take one each, in the order of the source, and the others are reported, whichever
functions the spare tests call. A failure takes a test that calls its function if one is left, and
else the first that is left. So a test that calls a function is spent on another one exactly where
it is the first left at the turn of a failure that nobody left can take; it never is where all open
failures are of one function. -/
theorem spare_tests_in_turn (tests : List TestCase) (throws : List ThrowSite) :
    coveredThrows tests throws =
        (namedThrows tests throws).map (·.2) ++ (turns tests throws).map (·.index) ∧
      (turns tests throws).map (fun x => (x.fact, x.index)) =
        (openThrows tests throws).take (spareTests tests throws).length ∧
      (∀ before x after, turns tests throws = before ++ x :: after →
        x.left = (spareTests tests throws).diff (before.map (·.test)) ∧ x.test ∈ x.left ∧
          (callsAt tests x.test x.fact.function = true ∨
            x.left.head? = some x.test ∧
              ∀ t ∈ x.left, callsAt tests t x.fact.function = false)) ∧
      (∀ i < throws.length, i ∉ coveredThrows tests throws →
        ((turns tests throws).map (·.test)).Perm (spareTests tests throws)) ∧
      (∀ ctx : RuleContext, ctx.facts.available = true → ctx.suite.errorTests = tests →
        ctx.facts.throws = throws →
        missingErrorTest.found ctx =
          ((openThrows tests throws).drop (spareTests tests throws).length).map fun p =>
            missingErrorTest.issue (throwFinding p.1)) ∧
      ∀ name,
        (SpentOnOwn tests throws name ↔
          ∀ x ∈ turns tests throws, (∀ t ∈ x.left, callsAt tests t x.fact.function = false) →
            ∀ first, x.left.head? = some first → callsAt tests first name = true →
              ¬ NamesNone tests throws first) ∧
        ((∀ p ∈ openThrows tests throws, p.1.function = name) → SpentOnOwn tests throws name) := by
  refine ⟨?_, map_fact_turns tests throws, ?_, fun i hi h => perm_turns tests throws hi h, ?_,
    fun name => ⟨spentOnOwn_iff tests throws name, spentOnOwn_of_one tests throws⟩⟩
  · rw [coveredThrows_eq, turns, map_index_turnsFrom]
  · intro before x after hSplit
    have hx : x ∈ turns tests throws := hSplit ▸ List.mem_append_right _ List.mem_cons_self
    exact ⟨(left_of_turnsFrom tests hSplit).1, test_of_mem_turns tests throws hx⟩
  · rintro ctx hFacts rfl rfl
    exact found_missingErrorTest hFacts

/-- The test of `b` is spent on the failure of `a`, which comes first, and `b` is reported. -/
theorem spare_tests_in_turn_unrelated :
    let tests : List TestCase :=
      [{ name := "b rejects", assertions := [{ matcher := "toThrow", subject := "() => b()" }],
         calls := ["b"] }]
    let throws : List ThrowSite :=
      [{ function := "a", condition := "always", line := 1, errorType := "RangeError" },
       { function := "b", condition := "always", line := 5, errorType := "TypeError" }]
    coveredThrows tests throws = [0] ∧
      ((turns tests throws).map (·.test)).Perm [0] ∧
      (turns tests throws).map (fun x => x.fact.function) = ["a"] ∧
      ¬ SpentOnOwn tests throws "b" := by
  intro tests throws
  obtain ⟨-, -, -, spent, -, own⟩ := spare_tests_in_turn tests throws
  have covered : coveredThrows tests throws = [0] := by decide +kernel
  have open_b : 1 ∉ coveredThrows tests throws := by rw [covered]; decide
  refine ⟨covered, spent 1 (by decide) open_b, by decide +kernel, fun h => ?_⟩
  let first : Turn := { fact := throws[0], index := 0, left := [0], test := 0 }
  have mem : first ∈ turns tests throws := List.mem_singleton.mpr rfl
  have nobody : ∀ t ∈ first.left, callsAt tests t first.fact.function = false := by decide +kernel
  have none_named : NamesNone tests throws 0 := by
    show ∀ fact ∈ throws, (tests[0]?.any fun test => namesThrow test fact) = false
    decide +kernel
  exact (own "b").1.mp h first mem nobody 0 rfl (by decide +kernel) none_named

end SuiteAudit.Rules
