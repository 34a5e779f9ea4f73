import SuiteAudit.Proofs.Breakdowns

/-!
# Bounds of a breakdown

Whatever the configuration, raw scores stay within twenty-five and the weighted total within a
hundred. Penalties are only as good as their numbers: prices and caps may be negative, and then they
add points instead of taking them. `breakdown_bounds` says exactly when the final score exceeds the
weighted total, and when the score of the file is not the final score of its breakdown.
-/

namespace SuiteAudit

/-! ### Penalties -/

namespace PenaltyPolicy

/-- **A policy that only takes points**: no price and no cap is negative. -/
structure Nonneg (p : PenaltyPolicy) : Prop where
  perError : 0 ≤ p.perError
  perWarning : 0 ≤ p.perWarning
  perInfo : 0 ≤ p.perInfo
  capError : 0 ≤ p.capError
  capWarning : 0 ≤ p.capWarning
  capInfo : 0 ≤ p.capInfo

/-- A policy that only takes points never adds any. -/
theorem Nonneg.total_pointsOf {p : PenaltyPolicy} (h : p.Nonneg) (issues : List Issue) :
    0 ≤ (p.pointsOf issues).total := by
  have cost (severity : Severity) {each cap : Int} (hEach : 0 ≤ each) (hCap : 0 ≤ cap) :
      0 ≤ min (penaltyCount severity issues * each) cap :=
    le_min (Int.mul_nonneg (Int.natCast_nonneg _) hEach) hCap
  exact Int.add_nonneg
    (Int.add_nonneg (cost .error h.perError h.capError) (cost .warning h.perWarning h.capWarning))
    (cost .info h.perInfo h.capInfo)

/-- However many issues there are, they cost no more than the caps. -/
theorem total_pointsOf_le (p : PenaltyPolicy) (issues : List Issue) :
    (p.pointsOf issues).total ≤ p.capError + p.capWarning + p.capInfo :=
  Int.add_le_add (Int.add_le_add (min_le_right _ _) (min_le_right _ _)) (min_le_right _ _)

end PenaltyPolicy

/-! ### Final scores -/

theorem finalOf_nonneg (total penalty : Int) (zeroAssertions : Bool) :
    0 ≤ finalOf total penalty zeroAssertions := by
  unfold finalOf zeroAssertionCeiling
  dsimp only
  split <;> omega

/-- **A final score exceeds its weighted total** only where penalties add points. -/
theorem finalOf_le_iff {total : Int} (hTotal : 0 ≤ total) (penalty : Int) (zeroAssertions : Bool) :
    finalOf total penalty zeroAssertions ≤ total ↔
      0 ≤ penalty ∨ zeroAssertions = true ∧ zeroAssertionCeiling ≤ total := by
  unfold finalOf zeroAssertionCeiling
  cases zeroAssertions with
  | true =>
    simp only [if_true, true_and]
    omega
  | false =>
    simp only [Bool.false_eq_true, if_false, false_and, or_false]
    omega

/-- **A final score is no score** only where penalties lift it above a hundred. -/
theorem ofInt_finalOf_iff (total penalty : Int) (zeroAssertions : Bool) :
    ((Score.ofInt (finalOf total penalty zeroAssertions)).value : Int) =
        finalOf total penalty zeroAssertions ↔
      zeroAssertions = true ∨ total - penalty ≤ 100 := by
  unfold Score.ofInt finalOf zeroAssertionCeiling
  cases zeroAssertions with
  | true =>
    simp only [if_true, true_or, iff_true]
    omega
  | false =>
    simp only [Bool.false_eq_true, if_false, false_or]
    omega

/-! ### Breakdowns -/

section

variable {α : Type} [ScoreNumber α]

theorem weightedTotalOf_mem_range (rows : List (CategoryRow α)) :
    0 ≤ weightedTotalOf rows ∧ weightedTotalOf rows ≤ 100 := by
  unfold weightedTotalOf
  omega

theorem rowFor_raw_mem_range (row : WeightRow) (lending : Lending α) (r : CategoryRaw) :
    0 ≤ (rowFor row lending r).raw ∧ (rowFor row lending r).raw ≤ 25 := by
  show 0 ≤ max 0 (min 25 r.raw) ∧ max 0 (min 25 r.raw) ≤ 25
  omega

/-- **The bounds of a breakdown**, under any configuration: six rows in order, each raw score within
twenty-five, and the weighted total within a hundred. The final score is what the penalties of the
configuration leave, and exceeds the weighted total, or the score of the file, exactly where they
add enough points; with no negative number in them it never does. -/
theorem breakdown_bounds {parse : Syntax.Parser} {config : Config} {job : Job} {pool : List Rule}
    {a : Analysis α} (h : analyze α parse config job pool = .ok a) :
    let b := a.breakdown
    b.rows.map (·.category) = Category.all ∧ (∀ row ∈ b.rows, 0 ≤ row.raw ∧ row.raw ≤ 25) ∧
      (0 ≤ b.weightedTotal ∧ b.weightedTotal ≤ 100) ∧
      b.penalties = config.penalties.pointsOf a.issues ∧
      b.final =
        (if b.zeroAssertionCap then min (max 0 (b.weightedTotal - b.penaltyTotal)) 30
          else max 0 (b.weightedTotal - b.penaltyTotal)) ∧
      0 ≤ b.final ∧
      (b.final ≤ b.weightedTotal ↔
        0 ≤ b.penaltyTotal ∨ b.zeroAssertionCap = true ∧ 30 ≤ b.weightedTotal) ∧
      ((a.score.value : Int) = b.final ↔
        b.zeroAssertionCap = true ∨ b.weightedTotal - b.penaltyTotal ≤ 100) ∧
      (config.penalties.Nonneg → b.final ≤ b.weightedTotal ∧ (a.score.value : Int) = b.final) := by
  intro b
  obtain ⟨s, -, rfl⟩ := exists_read_of_analyze h
  have rows_eq : b.rows = (scoredIn α config pool s (factsFor parse config job s)).raws.map
      (rowFor _ (lend _ _)) := rowsOf_eq (categoryRaws_category _ _ _ _) _
  have total_range : 0 ≤ b.weightedTotal ∧ b.weightedTotal ≤ 100 := weightedTotalOf_mem_range _
  -- The score is made of the final one, and both are decided by the total and the penalties.
  have le_iff := finalOf_le_iff total_range.1 b.penaltyTotal b.zeroAssertionCap
  have score_iff := ofInt_finalOf_iff b.weightedTotal b.penaltyTotal b.zeroAssertionCap
  refine ⟨?_, ?_, total_range, rfl, rfl, finalOf_nonneg _ _ _, le_iff, score_iff, ?_⟩
  · rw [rows_eq, List.map_map]
    exact categoryRaws_category _ _ _ _
  · rw [rows_eq]
    intro row hRow
    obtain ⟨r, -, rfl⟩ := List.mem_map.mp hRow
    exact rowFor_raw_mem_range _ _ r
  · intro nonneg
    have taken : 0 ≤ b.penaltyTotal := nonneg.total_pointsOf _
    exact ⟨le_iff.mpr (.inl taken), score_iff.mpr (.inr (by omega))⟩

end

open Syntax in
/-- A parser that takes every text for one test with one assertion. -/
def oneAssertionParser : Parser := fun _ _ =>
  let node (kind field text : String) (children : List Node) : Node :=
    .mk { kind, field, text } children
  let one := node "arguments" "arguments" "(1)" [node "number" "" "1" []]
  let expect := node "call_expression" "object" "expect(1)"
    [node "identifier" "function" "expect" [], one]
  let matcher := node "member_expression" "function" "expect(1).toBe"
    [expect, node "property_identifier" "property" "toBe" []]
  let callback := node "arrow_function" "" "() => expect(1).toBe(1)"
    [node "formal_parameters" "parameters" "()" [],
      node "call_expression" "body" "expect(1).toBe(1)" [matcher, one]]
  let title := node "string" "" "'is one'" [node "string_fragment" "" "is one" []]
  let call := node "call_expression" "" "it('is one', () => expect(1).toBe(1))"
    [node "identifier" "function" "it" [],
      node "arguments" "arguments" "('is one', () => expect(1).toBe(1))" [title, callback]]
  { root := node "program" "" "" [node "expression_statement" "" "" [call]] }

/-- **A cap below nothing lifts the final score above a hundred**, though it is accepted: the final
score is neither within the weighted total nor the score of the file. -/
theorem breakdown_bounds_negative_cap :
    let config : Config := { penalties := { capError := -200 } }
    let job : Job :=
      { path := "one.test.ts", test := .text "it('is one', () => expect(1).toBe(1))" }
    Config.ofFields registry [("penalties", .object [("cap_error", .int (-200))])] = .ok config ∧
      ∃ a, analyze Rat oneAssertionParser config job = .ok a ∧
        a.breakdown.weightedTotal ≤ 100 ∧ 0 ≤ a.breakdown.final ∧
        ¬ a.breakdown.final ≤ a.breakdown.weightedTotal ∧
        (a.score.value : Int) ≠ a.breakdown.final := by
  intro config job
  have asserted : (match Suite.read oneAssertionParser job.path job.test none with
      | .ok s => s.activeAssertionCount != 0
      | .error _ => false) = true := by decide +kernel
  refine ⟨rfl, ?_⟩
  cases hRead : Suite.read oneAssertionParser job.path job.test none with
  | error e => simp [hRead] at asserted
  | ok s =>
    rw [hRead] at asserted
    have analyzed := @analyze_rat oneAssertionParser config job s hRead allRules
    obtain ⟨-, -, total_range, penalties_eq, -, final_nonneg, le_iff, score_iff, -⟩ :=
      breakdown_bounds analyzed
    have no_cap : (analysisIn Rat config allRules s
        (factsFor oneAssertionParser config job s)).breakdown.zeroAssertionCap = false :=
      beq_eq_false_iff_ne.mpr (bne_iff_ne.mp asserted)
    have added : (analysisIn Rat config allRules s
        (factsFor oneAssertionParser config job s)).breakdown.penaltyTotal ≤ -200 + 40 + 15 := by
      rw [Breakdown.penaltyTotal, penalties_eq]
      exact config.penalties.total_pointsOf_le _
    refine ⟨_, analyzed, total_range.2, final_nonneg, ?_, ?_⟩
    · rw [le_iff, no_cap]
      simp only [Bool.false_eq_true, false_and, or_false]
      omega
    · rw [ne_eq, score_iff, no_cap]
      simp only [Bool.false_eq_true, false_or]
      omega

end SuiteAudit
