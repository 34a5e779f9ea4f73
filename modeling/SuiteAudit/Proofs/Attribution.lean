import Mathlib.Data.Int.Order.Basic
import Mathlib.Data.List.Basic
import Mathlib.Data.Nat.Basic
import Mathlib.Order.Basic
import SuiteAudit.Score.Ranking

/-!
# Attribution

Two searches go through the tests of a file: one for the innermost test at a line (`testAt?`), one
for the test that has the issues of a line (`ownerAt?`). They go in step (`map_foldl_ownerAfter`),
and each issue in turn goes to the end of one bucket (`getElem?_assignIssue`). So a test has, in
order, the issues at whose line it is the innermost (`getElem?_attributeIssues`): the issues that
lie in some test are parted among the tests, and none is lost or doubled (`attribution_partition`).
-/

namespace SuiteAudit

/-! ### The innermost test at a line -/

/-- **The test at an index is the innermost at a line**: it contains the line, and no other one that
does starts below it, or on the same line and later in the list. -/
def IsInnermost (tests : List TestCase) (line : Int) (k : Nat) (t : TestCase) : Prop :=
  tests[k]? = some t ∧ t.span.containsLine line = true ∧
    ∀ (j : Nat) (u : TestCase), tests[j]? = some u → u.span.containsLine line = true →
      u.span.line < t.span.line ∨ u.span.line = t.span.line ∧ j ≤ k

/-- What a search through some tests has found: the innermost of them, or that none contains the
line. -/
def IsBest (tests : List TestCase) (line : Int) : Option (Nat × Int) → Prop
  | none => ∀ t ∈ tests, t.span.containsLine line = false
  | some (k, start) => ∃ t, IsInnermost tests line k t ∧ t.span.line = start

section

variable {tests : List TestCase} {line : Int}

theorem IsInnermost.eq {j k : Nat} {t u : TestCase} (hj : IsInnermost tests line j t)
    (hk : IsInnermost tests line k u) : j = k := by
  have k_first := hj.2.2 k u hk.1 hk.2.1
  have j_first := hk.2.2 j t hj.1 hj.2.1
  omega

theorem getElem?_snoc_eq_some_iff {t u : TestCase} {j : Nat} :
    (tests ++ [t])[j]? = some u ↔ tests[j]? = some u ∨ j = tests.length ∧ u = t := by
  rcases Nat.lt_trichotomy j tests.length with h | rfl | h
  · rw [List.getElem?_append_left h]
    exact ⟨.inl, fun found => found.resolve_right fun last => absurd last.1 h.ne⟩
  · simp [eq_comm]
  · rw [List.getElem?_eq_none (by simp; omega), List.getElem?_eq_none h.le]
    simp [h.ne']

/-- **A search goes on from test to test**: a test that contains the line takes the place of what
was found, unless it starts above that. -/
theorem IsBest.step {best : Option (Nat × Int)} (h : IsBest tests line best) (t : TestCase) :
    IsBest (tests ++ [t]) line
      (if t.span.containsLine line && best.all (fun (_, start) => start ≤ t.span.line) then
        some (tests.length, t.span.line) else best) := by
  cases best with
  | none =>
    rw [Option.all_none, Bool.and_true]
    split
    · next contains =>
      refine ⟨t, ⟨getElem?_snoc_eq_some_iff.mpr (.inr ⟨rfl, rfl⟩), contains,
        fun j u hu hLine => ?_⟩, rfl⟩
      rcases getElem?_snoc_eq_some_iff.mp hu with hu | ⟨rfl, rfl⟩
      · rw [h u (List.mem_of_getElem? hu)] at hLine
        cases hLine
      · exact .inr ⟨rfl, le_rfl⟩
    · next passed =>
      intro u hu
      rcases List.mem_append.mp hu with hu | hu
      · exact h u hu
      · rw [List.mem_singleton.mp hu]
        exact Bool.eq_false_iff.mpr passed
  | some found =>
    obtain ⟨k, start⟩ := found
    obtain ⟨found, ⟨hFound, contains_found, first⟩, rfl⟩ := h
    rw [Option.all_some]
    by_cases taken :
        (t.span.containsLine line && decide (found.span.line ≤ t.span.line)) = true
    · rw [if_pos taken]
      obtain ⟨contains, later⟩ := Bool.and_eq_true_iff.mp taken
      have later : found.span.line ≤ t.span.line := of_decide_eq_true later
      refine ⟨t, ⟨getElem?_snoc_eq_some_iff.mpr (.inr ⟨rfl, rfl⟩), contains,
        fun j u hu hLine => ?_⟩, rfl⟩
      rcases getElem?_snoc_eq_some_iff.mp hu with hu | ⟨rfl, rfl⟩
      · have := first j u hu hLine
        have := (List.getElem?_eq_some_iff.mp hu).1
        omega
      · exact .inr ⟨rfl, le_rfl⟩
    · rw [if_neg taken]
      refine ⟨found, ⟨getElem?_snoc_eq_some_iff.mpr (.inl hFound), contains_found,
        fun j u hu hLine => ?_⟩, rfl⟩
      rcases getElem?_snoc_eq_some_iff.mp hu with hu | ⟨rfl, rfl⟩
      · exact first j u hu hLine
      -- The new test contains the line, so it was passed over for starting above.
      · rw [hLine, Bool.true_and, decide_eq_true_eq, not_le] at taken
        exact .inl taken

theorem isBest_testAtFrom {before after : List TestCase} {best : Option (Nat × Int)}
    (h : IsBest before line best) :
    IsBest (before ++ after) line (testAtFrom line after before.length best) := by
  induction after generalizing before best with
  | nil => rwa [List.append_nil]
  | cons t rest ih =>
    have next := ih (h.step t)
    rw [List.append_assoc, List.singleton_append, List.length_append, List.length_singleton] at next
    rw [testAtFrom]
    split
    · next taken => rwa [if_pos taken] at next
    · next passed => rwa [if_neg passed] at next

/-- What the search through all tests finds. -/
theorem exists_isBest_testAt? (tests : List TestCase) (line : Int) :
    ∃ best, IsBest tests line best ∧ testAt? tests line = best.map (·.1) := by
  have nothing_yet : IsBest [] line none := fun t ht => absurd ht List.not_mem_nil
  exact ⟨_, isBest_testAtFrom nothing_yet, rfl⟩

/-- **The innermost test at a line** is the one that the search finds. -/
theorem testAt?_eq_some_iff {k : Nat} :
    testAt? tests line = some k ↔ ∃ t, IsInnermost tests line k t := by
  obtain ⟨best, hBest, found_eq⟩ := exists_isBest_testAt? tests line
  rw [found_eq]
  cases best with
  | none =>
    refine iff_of_false (by simp) ?_
    rintro ⟨t, ht, contains, -⟩
    rw [hBest t (List.mem_of_getElem? ht)] at contains
    cases contains
  | some found =>
    obtain ⟨j, start⟩ := found
    obtain ⟨t, innermost, -⟩ := hBest
    rw [Option.map_some, Option.some_inj]
    exact ⟨fun h => h ▸ ⟨t, innermost⟩, fun ⟨u, hu⟩ => innermost.eq hu⟩

/-- A line that belongs to a test has an innermost one. -/
theorem exists_isInnermost {t : TestCase} (ht : t ∈ tests) (h : t.span.containsLine line = true) :
    ∃ k u, IsInnermost tests line k u := by
  obtain ⟨best, hBest, -⟩ := exists_isBest_testAt? tests line
  cases best with
  | none => exact absurd (hBest t ht) (by simp [h])
  | some found =>
    obtain ⟨u, innermost, -⟩ := hBest
    exact ⟨_, u, innermost⟩

end

/-! ### The owner of a line -/

/-- What the search for the innermost test remembers of a test: its index and its first line. -/
def startOf (t : TestCase × Nat) : Nat × Int :=
  (t.2, t.1.span.line)

/-- **The two searches go in step.** -/
theorem map_foldl_ownerAfter (line : Int) (tests : List TestCase) (index : Nat)
    (owner : Option (TestCase × Nat)) :
    ((tests.zipIdx index).foldl (ownerAfter line) owner).map startOf =
      testAtFrom line tests index (owner.map startOf) := by
  induction tests generalizing index owner with
  | nil => rfl
  | cons t rest ih =>
    have asked : (owner.map startOf).all (fun (_, start) => start ≤ t.span.line) =
        owner.all fun u => u.1.span.line ≤ t.span.line := by
      cases owner <;> rfl
    rw [List.zipIdx_cons, List.foldl_cons, ih, testAtFrom, asked, ownerAfter]
    dsimp only
    by_cases taken : (t.span.containsLine line &&
        owner.all fun u => decide (u.1.span.line ≤ t.span.line)) = true
    · rw [if_pos taken, if_pos taken, Option.map_some, startOf]
    · rw [if_neg taken, if_neg taken]

/-- **The owner of a line is the innermost test there.** -/
theorem map_snd_ownerAt? (tests : List TestCase) (line : Int) :
    (ownerAt? tests line).map (·.2) = testAt? tests line := by
  have in_step := map_foldl_ownerAfter line tests 0 none
  rw [Option.map_none] at in_step
  rw [testAt?, ← in_step, Option.map_map]
  rfl

/-! ### Buckets -/

section

variable (tests : List TestCase)

/-- **An issue goes to the end of one bucket**, that of the innermost test at its line; the other
buckets stay as they are. -/
theorem getElem?_assignIssue (buckets : List (List Issue)) (i : Issue) (k : Nat) :
    (assignIssue tests buckets i)[k]? = buckets[k]?.map fun bucket =>
      if testAt? tests i.span.line = some k then bucket ++ [i] else bucket := by
  rw [assignIssue, ← map_snd_ownerAt?]
  cases ownerAt? tests i.span.line with
  | none => simp
  | some owner =>
    obtain ⟨t, index⟩ := owner
    simp only [List.getElem?_modify, Option.map_eq_map, Option.map_some, Option.some_inj]

/-- **The issues go to the ends of the buckets in turn.** -/
theorem getElem?_foldl_assignIssue (issues : List Issue) (buckets : List (List Issue)) (k : Nat) :
    (issues.foldl (assignIssue tests) buckets)[k]? =
      buckets[k]?.map (· ++ issues.filter fun i => testAt? tests i.span.line == some k) := by
  induction issues generalizing buckets with
  | nil => simp
  | cons i rest ih =>
    rw [List.foldl_cons, ih, getElem?_assignIssue, Option.map_map, List.filter_cons]
    congr 1
    funext bucket
    by_cases owned : testAt? tests i.span.line = some k
    · simp [owned]
    · simp [owned]

theorem length_assignIssue (buckets : List (List Issue)) (i : Issue) :
    (assignIssue tests buckets i).length = buckets.length := by
  rw [assignIssue]
  split
  · rfl
  · exact List.length_modify _ _ _

theorem length_foldl_assignIssue (issues : List Issue) (buckets : List (List Issue)) :
    (issues.foldl (assignIssue tests) buckets).length = buckets.length := by
  induction issues generalizing buckets with
  | nil => rfl
  | cons i rest ih => rw [List.foldl_cons, ih, length_assignIssue]

variable (issues : List Issue)

theorem length_attributeIssues : (attributeIssues tests issues).length = tests.length := by
  rw [attributeIssues, length_foldl_assignIssue, List.length_map]

/-- **A test has, in order, the issues at whose line it is the innermost.** -/
theorem getElem?_attributeIssues (k : Nat) :
    (attributeIssues tests issues)[k]? =
      tests[k]?.map fun _ => issues.filter fun i => testAt? tests i.span.line == some k := by
  rw [attributeIssues, getElem?_foldl_assignIssue, List.getElem?_map, Option.map_map]
  rfl

variable {tests issues}

theorem eq_filter_of_bucket {k : Nat} {bucket : List Issue}
    (h : (attributeIssues tests issues)[k]? = some bucket) :
    bucket = issues.filter fun i => testAt? tests i.span.line == some k := by
  rw [getElem?_attributeIssues, Option.map_eq_some_iff] at h
  obtain ⟨_, -, rfl⟩ := h
  rfl

theorem mem_bucket_iff {k : Nat} {bucket : List Issue} {i : Issue}
    (h : (attributeIssues tests issues)[k]? = some bucket) :
    i ∈ bucket ↔ i ∈ issues ∧ testAt? tests i.span.line = some k := by
  rw [eq_filter_of_bucket h, List.mem_filter, beq_iff_eq]

theorem exists_bucket_iff {k : Nat} {i : Issue} :
    (∃ bucket, (attributeIssues tests issues)[k]? = some bucket ∧ i ∈ bucket) ↔
      i ∈ issues ∧ testAt? tests i.span.line = some k := by
  constructor
  · rintro ⟨bucket, hBucket, hi⟩
    exact (mem_bucket_iff hBucket).mp hi
  · intro owned
    obtain ⟨t, hTest, -⟩ := testAt?_eq_some_iff.mp owned.2
    have hBucket : k < (attributeIssues tests issues).length := by
      rw [length_attributeIssues]
      exact (List.getElem?_eq_some_iff.mp hTest).1
    have found := List.getElem?_eq_getElem hBucket
    exact ⟨_, found, (mem_bucket_iff found).mpr owned⟩

end

/-- **Attribution is a partition.** There is one bucket for each test. Every bucket keeps the order
of the issues and holds each of its issues as often as they do, and no issue is in two buckets. An
issue is in some bucket exactly if a test contains its line; it is in the bucket that the search for
the innermost test at its line finds, which is the last in the list of those tests that contain the
line and start on the greatest line. -/
theorem attribution_partition (tests : List TestCase) (issues : List Issue) :
    (attributeIssues tests issues).length = tests.length ∧
      (∀ bucket ∈ attributeIssues tests issues,
        bucket.Sublist issues ∧ ∀ i ∈ bucket, bucket.count i = issues.count i) ∧
      (attributeIssues tests issues).Pairwise List.Disjoint ∧
      (∀ i ∈ issues, (∃ bucket ∈ attributeIssues tests issues, i ∈ bucket) ↔
        ∃ t ∈ tests, t.span.containsLine i.span.line = true) ∧
      (∀ i k, (∃ bucket, (attributeIssues tests issues)[k]? = some bucket ∧ i ∈ bucket) ↔
        i ∈ issues ∧ testAt? tests i.span.line = some k) ∧
      ∀ line k, testAt? tests line = some k ↔ ∃ t, IsInnermost tests line k t := by
  refine ⟨length_attributeIssues tests issues, fun bucket hBucket => ?_, ?_, fun i hi => ?_,
    fun _ _ => exists_bucket_iff, fun _ _ => testAt?_eq_some_iff⟩
  · obtain ⟨k, hk⟩ := List.mem_iff_getElem?.mp hBucket
    refine ⟨eq_filter_of_bucket hk ▸ List.filter_sublist, fun i hi => ?_⟩
    have owned : (testAt? tests i.span.line == some k) = true :=
      beq_iff_eq.mpr ((mem_bucket_iff hk).mp hi).2
    rw [eq_filter_of_bucket hk]
    exact List.count_filter owned
  · rw [List.pairwise_iff_getElem]
    intro j k hj hk hjk i hi_j hi_k
    have owned_j := ((mem_bucket_iff (List.getElem?_eq_getElem hj)).mp hi_j).2
    have owned_k := ((mem_bucket_iff (List.getElem?_eq_getElem hk)).mp hi_k).2
    exact hjk.ne (Option.some.inj (owned_j.symm.trans owned_k))
  · constructor
    · rintro ⟨bucket, hBucket, hMem⟩
      obtain ⟨k, hk⟩ := List.mem_iff_getElem?.mp hBucket
      obtain ⟨t, hTest, contains, -⟩ := testAt?_eq_some_iff.mp ((mem_bucket_iff hk).mp hMem).2
      exact ⟨t, List.mem_of_getElem? hTest, contains⟩
    · rintro ⟨t, ht, contains⟩
      obtain ⟨k, u, innermost⟩ := exists_isInnermost ht contains
      obtain ⟨bucket, hBucket, hMem⟩ :=
        exists_bucket_iff.mpr ⟨hi, testAt?_eq_some_iff.mpr ⟨u, innermost⟩⟩
      exact ⟨bucket, List.mem_of_getElem? hBucket, hMem⟩

/-- A test with two tests inside that open on the same line. -/
def twinsInside : List TestCase :=
  [{ name := "inner", span := .of 5 3 9 }, { name := "outer", span := .of 1 1 20 },
    { name := "twin", span := .of 5 40 6 }]

/-- An issue on a line of the twins, one that only the outer test contains, and one behind all
tests; the first comes twice. -/
def issuesAmongTwins : List Issue :=
  let at_ (line : Int) : Issue :=
    { rule := "debug-code", severity := .warning, message := "m", span := .of line }
  [at_ 6, at_ 19, at_ 30, at_ 6]

/-- The later one of the twins has the issue of their line, both times; the issue behind all tests
is in no bucket. -/
theorem attribution_partition_twins :
    ∃ i ∈ issuesAmongTwins, ∃ j ∈ issuesAmongTwins,
      (∃ bucket, (attributeIssues twinsInside issuesAmongTwins)[2]? = some bucket ∧ i ∈ bucket ∧
        bucket.count i = 2) ∧
      ¬∃ bucket ∈ attributeIssues twinsInside issuesAmongTwins, j ∈ bucket := by
  obtain ⟨-, buckets, -, somewhere, at_index, -⟩ :=
    attribution_partition twinsInside issuesAmongTwins
  refine ⟨issuesAmongTwins[0], by decide, issuesAmongTwins[2], by decide, ?_, ?_⟩
  · obtain ⟨bucket, hBucket, hMem⟩ :=
      (at_index issuesAmongTwins[0] 2).mpr ⟨by decide, by decide⟩
    refine ⟨bucket, hBucket, hMem, ?_⟩
    rw [(buckets bucket (List.mem_of_getElem? hBucket)).2 _ hMem]
    decide
  · rw [somewhere _ (by decide)]
    decide

end SuiteAudit
