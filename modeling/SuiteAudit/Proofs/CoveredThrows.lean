import Mathlib.Data.List.Perm.Subperm
import SuiteAudit.Proofs.Findings
import SuiteAudit.Rule.Source

/-!
# How many failures are covered

A failure that some test names is covered by the first test that does. The tests that are no
failure's first one are spare, and each covers one of the failures still open, in the order of the
failures (`spendSpare_eq`). So how many are covered is a matter of counting (`length_coveredThrows`),
and as one more test only adds to either count, it never takes coverage away (`coverage_count`).
-/

namespace SuiteAudit.Rules

/-! ### Named and open failures -/

section

variable (tests : List TestCase) (throws : List ThrowSite)

/-- The failures that some test names, with their indices. -/
def namedThrows : List (ThrowSite × Nat) :=
  throws.zipIdx.filter fun (fact, _) => (typedMatch? tests fact).isSome

/-- **The failures that no test names**, with their indices. -/
def openThrows : List (ThrowSite × Nat) :=
  throws.zipIdx.filter fun (fact, _) => (typedMatch? tests fact).isNone

/-- **The tests that are not the first to name some failure**, as indices. -/
def spareTests : List Nat :=
  (List.range tests.length).filter (!(throws.filterMap (typedMatch? tests)).contains ·)

/-- Coverage comes in two passes. -/
theorem coveredThrows_eq :
    coveredThrows tests throws =
      (namedThrows tests throws).map (·.2) ++
        spendSpare tests (openThrows tests throws) (spareTests tests throws) :=
  rfl

/-- Every failure is either named or open. -/
theorem namedThrows_append_perm :
    (namedThrows tests throws ++ openThrows tests throws).Perm throws.zipIdx := by
  have negated : openThrows tests throws =
      throws.zipIdx.filter fun p => !(typedMatch? tests p.1).isSome :=
    List.filter_congr fun p _ => by simp
  rw [negated]
  exact List.filter_append_perm _ _

theorem length_namedThrows :
    (namedThrows tests throws).length =
      throws.countP fun fact => (typedMatch? tests fact).isSome := by
  have facts : throws.zipIdx.map (·.1) = throws := List.zipIdx_map_fst 0 throws
  calc
    (namedThrows tests throws).length
        = (throws.zipIdx.map (·.1)).countP fun fact => (typedMatch? tests fact).isSome := by
          rw [List.countP_map, List.countP_eq_length_filter]
          rfl
    _ = throws.countP fun fact => (typedMatch? tests fact).isSome := by rw [facts]

theorem mem_spareTests_iff {i : Nat} :
    i ∈ spareTests tests throws ↔
      i < tests.length ∧ ∀ fact ∈ throws, typedMatch? tests fact ≠ some i := by
  simp [spareTests]

theorem length_spareTests :
    (spareTests tests throws).length =
      (List.range tests.length).countP fun i => ∀ fact ∈ throws, typedMatch? tests fact ≠ some i := by
  rw [spareTests, List.countP_eq_length_filter]
  congr 1
  apply List.filter_congr
  intro i _
  rw [Bool.eq_iff_iff]
  simp

theorem nodup_spareTests : (spareTests tests throws).Nodup :=
  List.Nodup.filter _ List.nodup_range

end

/-! ### Spending spare tests -/

/-- **The spare test that a failure gets**: the first that calls its function, or else the first of
all. -/
def pickSpare (tests : List TestCase) (fact : ThrowSite) (first : Nat) (others : List Nat) : Nat :=
  ((first :: others).find? fun t =>
    tests[t]?.any fun test => test.callsFunction fact.function).getD first

theorem pickSpare_mem (tests : List TestCase) (fact : ThrowSite) (first : Nat)
    (others : List Nat) : pickSpare tests fact first others ∈ first :: others := by
  unfold pickSpare
  cases hFound : (first :: others).find? fun t =>
      tests[t]?.any fun test => test.callsFunction fact.function with
  | none => exact List.mem_cons_self
  | some t => exact List.mem_of_find?_eq_some hFound

/-- **Open failures are covered in their order**, as many as there are spare tests; whom the tests
call makes no difference. -/
theorem spendSpare_eq (tests : List TestCase) (open_ : List (ThrowSite × Nat)) (spare : List Nat) :
    spendSpare tests open_ spare = (open_.take spare.length).map (·.2) := by
  -- Whichever test is picked, one fewer is left for the failures after.
  induction open_ generalizing spare with
  | nil => simp [spendSpare]
  | cons p rest ih =>
    cases spare with
    | nil => simp [spendSpare]
    | cons first others =>
      have left := List.length_erase_of_mem (pickSpare_mem tests p.1 first others)
      rw [spendSpare, ih]
      show p.2 :: (rest.take
        ((first :: others).erase (pickSpare tests p.1 first others)).length).map (·.2) = _
      rw [left]
      rfl

section

variable (tests : List TestCase) (throws : List ThrowSite)

theorem sublist_coveredThrows :
    (coveredThrows tests throws).Sublist
      ((namedThrows tests throws ++ openThrows tests throws).map (·.2)) := by
  rw [coveredThrows_eq, spendSpare_eq, ← List.map_append]
  exact ((List.Sublist.refl _).append (List.take_sublist _ _)).map _

theorem indices_perm :
    ((namedThrows tests throws ++ openThrows tests throws).map (·.2)).Perm
      (List.range throws.length) := by
  have indices := (namedThrows_append_perm tests throws).map (·.2)
  rwa [List.zipIdx_map_snd, ← List.range_eq_range'] at indices

theorem nodup_coveredThrows : (coveredThrows tests throws).Nodup :=
  (sublist_coveredThrows tests throws).nodup
    ((indices_perm tests throws).nodup_iff.mpr List.nodup_range)

theorem coveredThrows_subset : coveredThrows tests throws ⊆ List.range throws.length :=
  List.Subset.trans (sublist_coveredThrows tests throws).subset (indices_perm tests throws).subset

/-- **As many failures are covered as there are named ones and spare tests**, if there are as many
failures. -/
theorem length_coveredThrows :
    (coveredThrows tests throws).length =
      min throws.length ((namedThrows tests throws).length + (spareTests tests throws).length) := by
  have all := (namedThrows_append_perm tests throws).length_eq
  rw [List.length_append, List.length_zipIdx] at all
  rw [coveredThrows_eq, spendSpare_eq, List.length_append, List.length_map, List.length_map,
    List.length_take]
  omega

end

/-! ### One more test -/

section

variable (before after : List TestCase) (t : TestCase) (throws : List ThrowSite)

/-- Where a test comes to stand when one more is put in after the first `k`. -/
def movedBy (k i : Nat) : Nat :=
  if i < k then i else i + 1

theorem movedBy_injective (k : Nat) : Function.Injective (movedBy k) := by
  intro i j h
  unfold movedBy at h
  split at h <;> split at h <;> omega

/-- A test that is the first to name a failure was so before another one was put in. -/
theorem typedMatch?_of_insert {fact : ThrowSite} {i : Nat}
    (h : typedMatch? (before ++ t :: after) fact = some (movedBy before.length i)) :
    typedMatch? (before ++ after) fact = some i := by
  unfold typedMatch? at h ⊢
  rw [List.findIdx?_append] at h ⊢
  -- The first match stands before the new test, or after it, where it was moved by one. It is not the
  -- new test itself, as nothing is moved to that place.
  cases hBefore : before.findIdx? (namesThrow · fact) with
  | some j =>
    have := (List.findIdx?_eq_some_iff_findIdx_eq.mp hBefore).1
    rw [hBefore] at h
    have : j = movedBy before.length i := by simpa using h
    unfold movedBy at this
    have : j = i := by split at this <;> omega
    simp [this]
  | none =>
    rw [hBefore, List.findIdx?_cons] at h
    unfold movedBy at h
    split at h
    · have : before.length = if i < before.length then i else i + 1 := by simpa using h
      split at this <;> omega
    · cases hAfter : after.findIdx? (namesThrow · fact) with
      | none => simp [hAfter] at h
      | some j =>
        have : j + 1 + before.length = if i < before.length then i else i + 1 := by
          simpa [hAfter] using h
        have : j + before.length = i := by split at this <;> omega
        simp [this]

theorem length_namedThrows_insert :
    (namedThrows (before ++ after) throws).length ≤
      (namedThrows (before ++ t :: after) throws).length := by
  rw [length_namedThrows, length_namedThrows]
  apply List.countP_mono_left
  intro fact _ h
  simp only [typedMatch?, List.findIdx?_isSome, List.any_append, List.any_cons, Bool.or_eq_true]
    at h ⊢
  tauto

/-- Spare tests stay spare. -/
theorem length_spareTests_insert :
    (spareTests (before ++ after) throws).length ≤
      (spareTests (before ++ t :: after) throws).length := by
  -- They are moved without meeting, to places that are spare again.
  have nodup : ((spareTests (before ++ after) throws).map (movedBy before.length)).Nodup :=
    (nodup_spareTests _ throws).map (movedBy_injective before.length)
  have subset : (spareTests (before ++ after) throws).map (movedBy before.length) ⊆
      spareTests (before ++ t :: after) throws := by
    intro j hj
    obtain ⟨i, hi, rfl⟩ := List.mem_map.mp hj
    rw [mem_spareTests_iff] at hi ⊢
    refine ⟨?_, fun fact hFact h => hi.2 fact hFact (typedMatch?_of_insert before after t h)⟩
    have := hi.1
    simp only [List.length_append, List.length_cons] at this ⊢
    unfold movedBy
    split <;> omega
  simpa using (List.subperm_of_subset nodup subset).length_le

end

/-- **How many failures are covered**: all of them, or the ones that some test names and one more
for each test that is not the first to name any. One more test, wherever it is put in, never leaves
fewer covered. -/
theorem coverage_count (tests : List TestCase) (throws : List ThrowSite) :
    (coveredThrows tests throws).Nodup ∧
      coveredThrows tests throws ⊆ List.range throws.length ∧
      (coveredThrows tests throws).length =
        min throws.length
          (throws.countP (fun fact => (typedMatch? tests fact).isSome) +
            (List.range tests.length).countP fun i =>
              ∀ fact ∈ throws, typedMatch? tests fact ≠ some i) ∧
      ∀ k t,
        (coveredThrows tests throws).length ≤
          (coveredThrows (tests.take k ++ t :: tests.drop k) throws).length := by
  refine ⟨nodup_coveredThrows tests throws, coveredThrows_subset tests throws, ?_, ?_⟩
  · rw [length_coveredThrows, length_namedThrows, length_spareTests]
  · intro k t
    have named := length_namedThrows_insert (tests.take k) (tests.drop k) t throws
    have spare := length_spareTests_insert (tests.take k) (tests.drop k) t throws
    rw [List.take_append_drop] at named spare
    rw [length_coveredThrows, length_coveredThrows]
    omega

end SuiteAudit.Rules
