import SuiteAudit.Proofs.Contributions

/-!
# What shared variables cost

The detector reports variables, but points are taken by line: every variable that tests change costs
points if it is declared on the line of a reported one. So beside the variables that are reported
their neighbours are charged (`sharedStatePoints_eq`), whether a hook resets them, they are set up
once, or their own issue was dropped. The charge is that of the reported variables alone exactly if
there is no such neighbour or the cap hides it (`charged_with_reported`).
-/

namespace SuiteAudit.Rules

/-! ### Reported variables and their neighbours -/

/-- What a variable costs that tests share. -/
def sharingCost (b : Binding) : Int :=
  8 + 4 * Int.ofNat b.mutatedIn.length

/-- What some variables cost together, before the cap. -/
def sharingCosts (bindings : List Binding) : Int :=
  wholeSum (bindings.map sharingCost)

/-- The issue that a shared variable is. -/
def sharedIssue (b : Binding) : Issue :=
  sharedState.issue (sharedFinding b)

/-- Whether a variable is shared and its issue is among some issues. -/
def isReported (issues : List Issue) (b : Binding) : Bool :=
  isShared b && issues.contains (sharedIssue b)

/-- The variables whose issue is among some issues. -/
def reported (bindings : List Binding) (issues : List Issue) : List Binding :=
  bindings.filter (isReported issues)

/-- **The neighbours of reported variables**: tests change them and they are declared on the line of
a reported one, but no issue reports them. -/
def neighbours (bindings : List Binding) (issues : List Issue) : List Binding :=
  bindings.filter fun b =>
    !b.mutatedIn.isEmpty && (reported bindings issues).any (·.span.line == b.span.line) &&
      !isReported issues b

section

variable {bindings : List Binding} {issues : List Issue}

theorem twelve_le_sharingCost {b : Binding} (h : b.mutatedIn ≠ []) : 12 ≤ sharingCost b := by
  have := List.length_pos_iff.mpr h
  rw [sharingCost, Int.ofNat_eq_natCast]
  omega

theorem mem_reported_iff {b : Binding} :
    b ∈ reported bindings issues ↔ b ∈ bindings ∧ isShared b = true ∧ sharedIssue b ∈ issues := by
  rw [reported, List.mem_filter, isReported, Bool.and_eq_true, List.contains_iff_mem]

theorem mem_neighbours_iff {b : Binding} :
    b ∈ neighbours bindings issues ↔ b ∈ bindings ∧ b.mutatedIn ≠ [] ∧
      (∃ r ∈ reported bindings issues, r.span.line = b.span.line) ∧
        isReported issues b = false := by
  simp only [neighbours, List.mem_filter, Bool.and_eq_true, Bool.not_eq_true',
    List.isEmpty_eq_false_iff, List.any_eq_true, beq_iff_eq, and_assoc]

/-- Neighbours cost twelve points or more, if there are any. -/
theorem sharingCosts_neighbours :
    neighbours bindings issues = [] ∨ 12 ≤ sharingCosts (neighbours bindings issues) := by
  have costly : ∀ b ∈ neighbours bindings issues, 12 ≤ sharingCost b := fun b hb =>
    twelve_le_sharingCost (mem_neighbours_iff.mp hb).2.1
  cases hAll : neighbours bindings issues with
  | nil => exact .inl rfl
  | cons b rest =>
    rw [hAll] at costly
    obtain ⟨first, others⟩ := List.forall_mem_cons.mp costly
    right
    have rest_nonneg : 0 ≤ (rest.map sharingCost).sum := by
      apply List.sum_nonneg
      intro n hn
      obtain ⟨c, hc, rfl⟩ := List.mem_map.mp hn
      have := others c hc
      omega
    rw [sharingCosts, wholeSum_eq_sum, List.map_cons, List.sum_cons]
    omega

/-- The issues flag the lines of the reported variables. -/
theorem mem_lines_iff_reported (kept : issues ⊆ (bindings.filter isShared).map sharedIssue)
    {line : Int} :
    line ∈ issues.map (·.span.line) ↔ ∃ r ∈ reported bindings issues, r.span.line = line := by
  rw [List.mem_map]
  constructor
  · rintro ⟨i, hi, rfl⟩
    obtain ⟨r, hr, rfl⟩ := List.mem_map.mp (kept hi)
    obtain ⟨hBinding, hShared⟩ := List.mem_filter.mp hr
    exact ⟨r, mem_reported_iff.mpr ⟨hBinding, hShared, hi⟩, rfl⟩
  · rintro ⟨r, hr, rfl⟩
    exact ⟨sharedIssue r, (mem_reported_iff.mp hr).2.2, rfl⟩

/-- **The points by line are those of the reported variables and of their neighbours.** -/
theorem sharedStatePoints_eq (kept : issues ⊆ (bindings.filter isShared).map sharedIssue) :
    sharedStatePoints bindings (issues.map (·.span.line)) =
      sharingCosts (reported bindings issues) + sharingCosts (neighbours bindings issues) := by
  -- A variable that counts is either reported, or on the line of one that is.
  set counted := bindings.filter fun b =>
    (issues.map (·.span.line)).contains b.span.line && !b.mutatedIn.isEmpty with hCounted
  have reported_eq : counted.filter (isReported issues) = reported bindings issues := by
    rw [hCounted, List.filter_filter]
    refine List.filter_congr fun b hb => ?_
    by_cases hReported : isReported issues b = true
    · have hShared : isShared b = true := (Bool.and_eq_true_iff.mp hReported).1
      have mutated : (!b.mutatedIn.isEmpty) = true := by
        simp only [isShared, Bool.and_eq_true] at hShared
        exact hShared.1.1
      have flagged : b.span.line ∈ issues.map (·.span.line) :=
        (mem_lines_iff_reported kept).mpr ⟨b, List.mem_filter.mpr ⟨hb, hReported⟩, rfl⟩
      rw [hReported, mutated, List.contains_iff_mem.mpr flagged]
      rfl
    · simp [hReported]
  have neighbours_eq : counted.filter (fun b => !isReported issues b) =
      neighbours bindings issues := by
    rw [hCounted, List.filter_filter]
    refine List.filter_congr fun b _ => ?_
    have line_iff : (issues.map (·.span.line)).contains b.span.line =
        (reported bindings issues).any (·.span.line == b.span.line) := by
      rw [Bool.eq_iff_iff, List.contains_iff_mem, mem_lines_iff_reported kept, List.any_eq_true]
      simp only [beq_iff_eq]
    rw [line_iff]
    ac_rfl
  have split := ((List.filter_append_perm (isReported issues) counted).map sharingCost).sum_eq
  rw [reported_eq, neighbours_eq, List.map_append, List.sum_append] at split
  rw [sharingCosts, sharingCosts, wholeSum_eq_sum, wholeSum_eq_sum, split, sharedStatePoints,
    wholeSum_eq_sum]
  rfl

end

/-! ### The charge -/

/-- **What is charged for shared variables.** If of the issues found some are dropped, the rest
costs what the reported variables and their neighbours cost together, at most 25. This is the cost
of the reported variables alone exactly if they have no neighbours or reach the cap by themselves. A
variable that a hook resets for every test, or that is set up once, is a neighbour exactly if tests
change it and it is declared on the line of a reported one. -/
theorem charged_with_reported {ctx : RuleContext} {found issues : List Issue}
    (hFound : sharedState.run ctx = .ok found) (kept : issues.Sublist found) :
    let bindings := ctx.suite.bindings
    let own := sharingCosts (reported bindings issues)
    let more := sharingCosts (neighbours bindings issues)
    ∃ delta, sharedState.deltaOf issues ctx = .ok delta ∧
      delta.points = .whole (-min (own + more) 25) ∧
      (delta.points = .whole (-min own 25) ↔ neighbours bindings issues = [] ∨ 25 ≤ own) ∧
      ∀ b ∈ bindings, neverReset b = false ∨ setUpOnce b = true →
        (b ∈ neighbours bindings issues ↔ b.mutatedIn ≠ [] ∧
          ∃ r ∈ reported bindings issues, r.span.line = b.span.line) := by
  intro bindings own more
  have found_eq : found = (bindings.filter isShared).map sharedIssue := by
    have ran : sharedState.run ctx =
        .ok (((bindings.filter isShared).map sharedFinding).map sharedState.issue) := rfl
    rw [ran, List.map_map] at hFound
    exact (Except.ok.inj hFound).symm
  have all_kept : issues ⊆ (bindings.filter isShared).map sharedIssue := found_eq ▸ kept.subset
  have own_issues : Issue.ofRule issues sharedState.id = issues := by
    refine List.filter_eq_self.mpr fun i hi => ?_
    obtain ⟨b, -, rfl⟩ := List.mem_map.mp (all_kept hi)
    exact beq_self_eq_true _
  have points_eq : sharedState.deltaOf issues ctx =
      .ok { points := .whole (-min (own + more) 25) } := by
    rw [← sharedStatePoints_eq all_kept, Rule.deltaOf, own_issues]
    rfl
  refine ⟨_, points_eq, rfl, ?_, fun b hb unshared => ?_⟩
  · rw [Points.whole.injEq]
    rcases @sharingCosts_neighbours bindings issues with alone | beside
    · have nothing : more = 0 := by
        rw [show more = sharingCosts (neighbours bindings issues) from rfl, alone]
        rfl
      rw [nothing, Int.add_zero]
      exact iff_of_true rfl (.inl alone)
    · have costly : 12 ≤ more := beside
      have present : neighbours bindings issues ≠ [] := by
        intro hNone
        rw [hNone] at beside
        exact absurd beside (by decide)
      rw [or_iff_right present]
      omega
  · have not_shared : isShared b = false := by
      rcases unshared with reset | once
      · simp [isShared, reset]
      · simp [isShared, once]
    have not_reported : isReported issues b = false := by
      rw [isReported, not_shared, Bool.false_and]
    rw [mem_neighbours_iff]
    exact ⟨fun h => ⟨h.2.1, h.2.2.1⟩, fun h => ⟨hb, h.1, h.2, not_reported⟩⟩

/-- A variable that a test changes. -/
def totalVariable : Binding where
  name := "total"
  span := .of 1 5
  mutatedIn := [0]

/-- A variable of the same declaration that two tests change and a hook resets. -/
def itemsVariable : Binding where
  name := "items"
  span := .of 1 16
  resetBy := [.beforeEach]
  mutatedIn := [0, 1]

/-- The variable that is reset is charged with the one beside it: 25 points instead of 12. -/
theorem charged_with_reported_one_line :
    let ctx : RuleContext := { suite := { bindings := [totalVariable, itemsVariable] } }
    let issues := [sharedIssue totalVariable]
    ∃ delta, sharedState.run ctx = .ok issues ∧ sharedState.deltaOf issues ctx = .ok delta ∧
      itemsVariable ∈ neighbours ctx.suite.bindings issues ∧ delta.points = .whole (-25) ∧
      delta.points ≠ .whole (-min (sharingCost totalVariable) 25) := by
  intro ctx issues
  have hFound : sharedState.run ctx = .ok issues := rfl
  obtain ⟨delta, hDelta, points_eq, own_iff, neighbour_iff⟩ :=
    charged_with_reported hFound (List.Sublist.refl issues)
  have beside : itemsVariable ∈ neighbours ctx.suite.bindings issues :=
    (neighbour_iff itemsVariable (by decide) (.inl rfl)).mpr
      ⟨by decide, totalVariable, by decide, rfl⟩
  refine ⟨delta, hFound, hDelta, beside, points_eq, fun alone => ?_⟩
  rcases own_iff.mp alone with no_neighbours | at_cap
  · rw [no_neighbours] at beside
    cases beside
  · exact absurd at_cap (by decide)

end SuiteAudit.Rules
