import Mathlib.Data.List.Nodup
import SuiteAudit.Proofs.Exact
import SuiteAudit.Rule.Registry

/-!
# What the registered rules do to their categories

The thirty-four contributions of the registry come in nine ways of taking points, and
`Rule.Scores` names them: most take so many points an issue, up to a cap. A law of contributions is
proved once for each way and then holds of every registered rule. The laws here are that a
registered rule always has an answer (`deltaOf_eq`) and that more issues never make the answer
better (`delta_antitone`).
-/

namespace SuiteAudit

open Rules

/-! ### Rules by id -/

/-- The registry holds each id once. -/
theorem nodup_ids : (allRules.map (·.id)).Nodup := by
  -- Lists of numbers are faster to tell apart than texts.
  have nodup_codes : (allRules.map (·.id.codes)).Nodup := by decide +kernel
  apply List.Nodup.of_map Text.codes
  rw [List.map_map]
  exact nodup_codes

/-- A registered rule is known by its id. -/
theorem eq_of_id_eq {q r : Rule} (hq : q ∈ allRules) (hr : r ∈ allRules) (h : q.id = r.id) :
    q = r :=
  List.inj_on_of_nodup_map nodup_ids hq hr h

/-! ### Ways of taking points -/

/-- **How a registered rule takes points**: not at all, so many an issue up to a cap of at most
a full raw score, by the limit for smells, or in a way of its own. -/
inductive Rule.Scores : Rule → Prop where
  | nothing {r : Rule} (h : r.contribute = none) : Scores r
  | capped {r : Rule} (each cap : Nat) (h : r.contribute = some (cappedDelta each cap))
      (hCap : cap ≤ maxRaw := by decide) : Scores r
  | smell {r : Rule} (h : r.contribute = some smellDelta)
      (hSmell : r.category = some .aiSmells := by rfl) : Scores r
  | weak : Scores weakAssertion
  | bare : Scores noAssertions
  | snapshots : Scores snapshotOveruse
  | shared : Scores sharedState
  | failures : Scores missingErrorTest
  | limits : Scores missingBoundaryTest

/-- Every registered rule takes points in one of the nine ways. -/
theorem scores_of_mem : ∀ r ∈ allRules, r.Scores := by
  simp only [allRules, List.forall_mem_cons, List.not_mem_nil, false_implies, implies_true,
    and_true]
  exact ⟨.weak, .bare, .snapshots, .capped 3 12 rfl, .capped 2 6 rfl, .capped 2 10 rfl,
    .capped 1 5 rfl, .capped 1 5 rfl, .capped 1 5 rfl, .capped 4 12 rfl, .capped 3 25 rfl,
    .capped 3 15 rfl, .capped 2 10 rfl, .failures, .capped 2 6 rfl, .capped 2 10 rfl,
    .capped 3 9 rfl, .capped 3 15 rfl, .limits, .capped 3 15 rfl, .shared, .capped 5 15 rfl,
    .capped 3 6 rfl, .capped 2 15 rfl, .capped 4 12 rfl, .capped 2 8 rfl, .capped 1 4 rfl,
    .smell rfl, .smell rfl, .smell rfl, .smell rfl, .smell rfl, .smell rfl, .smell rfl,
    .nothing rfl, .nothing rfl, .nothing rfl, .nothing rfl, .nothing rfl, .nothing rfl,
    .nothing rfl, .nothing rfl, .nothing rfl, .nothing rfl, .nothing rfl, .nothing rfl⟩

/-! ### The answer of a rule -/

/-- What a rule does to its category; nothing if it gives no answer. -/
def Rule.delta (r : Rule) (issues : List Issue) (ctx : RuleContext) : Delta :=
  match r.deltaOf issues ctx with
  | .ok delta => delta
  | .error _ => {}

/-- The share that some of the assertions or tests of a suite make up; none if there are none. -/
def shareDelta (count total : Nat) : Delta :=
  if total = 0 then {} else { points := .share count total }

section

variable {r : Rule} (issues : List Issue) (ctx : RuleContext)

theorem deltaOf_nothing (h : r.contribute = none) : r.deltaOf issues ctx = .ok {} := by
  rw [Rule.deltaOf, h]

theorem deltaOf_capped {each cap : Nat} (h : r.contribute = some (cappedDelta each cap)) :
    r.deltaOf issues ctx =
      .ok { points := cappedPoints (Issue.ofRule issues r.id).length each cap } := by
  rw [Rule.deltaOf, h]
  rfl

theorem deltaOf_smell (h : r.contribute = some smellDelta) :
    r.deltaOf issues ctx =
      .ok { points := cappedPoints (Issue.ofRule issues r.id).length ctx.smells.pointsPerSmell
              25 } := by
  rw [Rule.deltaOf, h]
  rfl

theorem deltaOf_weak :
    weakAssertion.deltaOf issues ctx =
      .ok (shareDelta (Issue.ofRule issues weakAssertion.id).length
        ctx.suite.activeAssertionCount) := by
  unfold Rule.deltaOf weakAssertion
  dsimp only
  cases ctx.suite.activeAssertionCount <;> rfl

theorem deltaOf_bare :
    noAssertions.deltaOf issues ctx =
      .ok (shareDelta (Issue.ofRule issues noAssertions.id).length
        ctx.suite.activeTests.length) := by
  unfold Rule.deltaOf noAssertions
  dsimp only
  cases ctx.suite.activeTests.length <;> rfl

end

/-- **A registered rule always gives an answer.** -/
theorem deltaOf_eq {r : Rule} (h : r ∈ allRules) (issues : List Issue) (ctx : RuleContext) :
    r.deltaOf issues ctx = .ok (r.delta issues ctx) := by
  suffices answers : ∃ delta, r.deltaOf issues ctx = .ok delta by
    obtain ⟨delta, hd⟩ := answers
    rw [Rule.delta, hd]
  cases scores_of_mem r h with
  | nothing h => exact ⟨_, deltaOf_nothing issues ctx h⟩
  | capped each cap h => exact ⟨_, deltaOf_capped issues ctx h⟩
  | smell h => exact ⟨_, deltaOf_smell issues ctx h⟩
  | weak => exact ⟨_, deltaOf_weak issues ctx⟩
  | bare => exact ⟨_, deltaOf_bare issues ctx⟩
  | snapshots => exact ⟨_, rfl⟩
  | shared => exact ⟨_, rfl⟩
  | failures => exact ⟨_, rfl⟩
  | limits => exact ⟨_, rfl⟩

/-- The answer of a registered rule, read off what it gave. -/
theorem delta_of_deltaOf {r : Rule} {issues : List Issue} {ctx : RuleContext} {delta : Delta}
    (h : r.deltaOf issues ctx = .ok delta) : r.delta issues ctx = delta := by
  rw [Rule.delta, h]

/-! ### More issues are never better -/

/-- **One answer is at most as good as another**: it takes no fewer points, and of the same facts
covers no more. -/
structure Delta.LE (d e : Delta) : Prop where
  points_le : (d.points.value : Rat) ≤ e.points.value
  covered_le : d.covered ≤ e.covered
  total_eq : d.total = e.total
  total_nonneg : 0 ≤ d.total

/-- Points without facts compare by their value. -/
theorem Delta.LE.of_points {p q : Points} (h : (p.value : Rat) ≤ q.value) :
    Delta.LE { points := p } { points := q } :=
  ⟨h, le_rfl, rfl, le_rfl⟩

theorem cappedPoints_antitone {m n : Nat} (h : m ≤ n) {each : Int} (hEach : 0 ≤ each) (cap : Int) :
    ((cappedPoints n each cap).value : Rat) ≤ (cappedPoints m each cap).value := by
  rw [cappedPoints, cappedPoints, Points.value_whole, Points.value_whole, Int.cast_le]
  have cost_le : (m : Int) * each ≤ n * each :=
    Int.mul_le_mul_of_nonneg_right (Int.ofNat_le.mpr h) hEach
  exact Int.neg_le_neg (min_le_min cost_le le_rfl)

theorem shareDelta_antitone {m n : Nat} (h : m ≤ n) (total : Nat) :
    (shareDelta n total).LE (shareDelta m total) := by
  by_cases hTotal : total = 0
  · rw [shareDelta, shareDelta, if_pos hTotal, if_pos hTotal]
    exact .of_points le_rfl
  · rw [shareDelta, shareDelta, if_neg hTotal, if_neg hTotal]
    apply Delta.LE.of_points
    have share_le : (m : Rat) / total ≤ (n : Rat) / total :=
      div_le_div_of_nonneg_right (by exact_mod_cast h) (Nat.cast_nonneg total)
    rw [Points.value_share, Points.value_share]
    linarith [min_le_min (le_refl (1 : Rat)) share_le]

/-- Every flagged line can only add variables that cost points. -/
theorem sharedStatePoints_mono {bindings : List Binding} {few many : List Int}
    (h : few ⊆ many) : sharedStatePoints bindings few ≤ sharedStatePoints bindings many := by
  rw [sharedStatePoints, sharedStatePoints, wholeSum_eq_sum, wholeSum_eq_sum]
  apply List.Sublist.sum_le_sum
  · apply List.Sublist.map
    apply List.monotone_filter_right
    intro b hb
    simp only [Bool.and_eq_true, List.contains_iff_mem] at hb ⊢
    exact ⟨h hb.1, hb.2⟩
  · intro n hn
    obtain ⟨b, -, rfl⟩ := List.mem_map.mp hn
    have := Int.natCast_nonneg b.mutatedIn.length
    rw [Int.ofNat_eq_natCast]
    omega

theorem coverageDelta_antitone (total : Nat) {few many : List Issue}
    (h : few.length ≤ many.length) : (coverageDelta total many).LE (coverageDelta total few) where
  points_le := le_rfl
  covered_le := by
    simp only [coverageDelta, Int.ofNat_eq_natCast]
    omega
  total_eq := rfl
  total_nonneg := Int.natCast_nonneg total

/-- **More issues never make the answer of a registered rule better.** -/
theorem delta_antitone {r : Rule} (h : r ∈ allRules) {ctx : RuleContext}
    (hSmell : 0 ≤ ctx.smells.pointsPerSmell) {few many : List Issue} (fewer : few.Sublist many) :
    (r.delta many ctx).LE (r.delta few ctx) := by
  have own (id : Text) : (Issue.ofRule few id).Sublist (Issue.ofRule many id) := fewer.filter _
  have length_le (id : Text) := (own id).length_le
  cases scores_of_mem r h with
  | nothing h =>
    rw [delta_of_deltaOf (deltaOf_nothing _ _ h), delta_of_deltaOf (deltaOf_nothing _ _ h)]
    exact .of_points le_rfl
  | capped each cap h =>
    rw [delta_of_deltaOf (deltaOf_capped _ _ h), delta_of_deltaOf (deltaOf_capped _ _ h)]
    exact .of_points (cappedPoints_antitone (length_le r.id) (Int.natCast_nonneg each) cap)
  | smell h =>
    rw [delta_of_deltaOf (deltaOf_smell _ _ h), delta_of_deltaOf (deltaOf_smell _ _ h)]
    exact .of_points (cappedPoints_antitone (length_le r.id) hSmell 25)
  | weak =>
    rw [delta_of_deltaOf (deltaOf_weak _ _), delta_of_deltaOf (deltaOf_weak _ _)]
    exact shareDelta_antitone (length_le _) _
  | bare =>
    rw [delta_of_deltaOf (deltaOf_bare _ _), delta_of_deltaOf (deltaOf_bare _ _)]
    exact shareDelta_antitone (length_le _) _
  | snapshots =>
    -- Points are taken once, however many issues there are.
    apply Delta.LE.of_points
    rw [Points.value_whole, Points.value_whole, Int.cast_le]
    by_cases hFew : (Issue.ofRule few snapshotOveruse.id).isEmpty
    · rw [if_pos hFew]
      split <;> decide
    · have hMany : ¬ (Issue.ofRule many snapshotOveruse.id).isEmpty := by
        intro hEmpty
        rw [List.isEmpty_iff] at hEmpty
        exact hFew (by rw [List.isEmpty_iff, ← List.sublist_nil, ← hEmpty]; exact own _)
      rw [if_neg hFew, if_neg hMany]
  | shared =>
    -- Points go by variables, found by the lines of issues: fewer issues flag fewer lines.
    apply Delta.LE.of_points
    rw [Points.value_whole, Points.value_whole, Int.cast_le]
    exact Int.neg_le_neg
      (min_le_min (sharedStatePoints_mono ((own _).map _).subset) le_rfl)
  | failures => exact coverageDelta_antitone _ (length_le _)
  | limits => exact coverageDelta_antitone _ (length_le _)

end SuiteAudit
