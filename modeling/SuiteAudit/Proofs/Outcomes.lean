import SuiteAudit.Proofs.DoubleScores
import SuiteAudit.Proofs.Numerals

/-!
# What an audit comes to

A test file is refused exactly if no grammar reads its path or it is not text (`read_refused_iff`).
A file that can be read has an analysis, in doubles as they are computed, with two exceptions: a
literal of a test may be a whole number beyond the doubles, and penalties below nothing may lift the
value of a test beyond them (`analyze_outcomes`).
-/

namespace SuiteAudit

open Syntax ScoreNumber

/-! ### Refusals -/

section

variable {parse : Parser} {path : Text} {content : Content} {framework : Option Framework}

/-- **A test file is refused exactly if no grammar reads its path or it is not text.** -/
theorem read_refused_iff :
    (∃ f, Suite.read parse path content framework = .error (.refused f)) ↔
      Grammar.ofPath? path = none ∨ content.string? = none := by
  rcases read_cases parse path content framework with
    ⟨unread, detail, hRead⟩ | ⟨grammar, text, hGrammar, hText, hRead⟩
  · exact ⟨fun _ => unread, fun _ => ⟨_, hRead⟩⟩
  · rw [hRead]
    cases Suite.ofTree path text framework (parse grammar text) <;>
      simp [Except.mapError, hGrammar, hText]

theorem refused_of_read {f : Suite.ParseFailure}
    (h : Suite.read parse path content framework = .error (.refused f)) :
    f.path = path ∧ f.kind = .unsupportedSyntax := by
  rcases read_cases parse path content framework with
    ⟨-, detail, hRead⟩ | ⟨grammar, text, -, -, hRead⟩
  · rw [hRead] at h
    obtain rfl := Suite.ReadError.refused.inj (Except.error.inj h)
    exact ⟨rfl, rfl⟩
  · rw [hRead] at h
    cases hTree : Suite.ofTree path text framework (parse grammar text) <;>
      simp [hTree, Except.mapError] at h

end

/-! ### Lengths of tests -/

/-- **A parser whose rows are machine words**, so no node has more lines than those count. -/
def RowsFit (parse : Parser) : Prop :=
  ∀ grammar text, ∀ n ∈ (parse grammar text).root.nodes, n.label.stop.row < 2 ^ 32

theorem lineCount_span_le {n : Node} (h : n.label.stop.row < 2 ^ 32) :
    n.span.lineCount ≤ 2 ^ 32 := by
  unfold Node.span Span.of Span.lineCount
  dsimp only
  omega

theorem span_of_readTest {index : Nat} {b : Block} {call : Node} {place : Place}
    {t : Suite.ReadTest} (h : Suite.readTest index b call place = .ok t) :
    t.test.span = call.span := by
  unfold Suite.readTest at h
  dsimp only at h
  rw [bind_eq_ok] at h
  obtain ⟨calls, -, h⟩ := h
  rw [bind_eq_ok] at h
  obtain ⟨rows, -, h⟩ := h
  obtain rfl := Except.ok.inj h
  rfl

/-- **A test stands where its call does.** -/
theorem exists_of_mem_readTests {items : List (Nat × Item)} {tests : List Suite.ReadTest}
    (h : Suite.readTests items = .ok tests) {t : Suite.ReadTest} (ht : t ∈ tests) :
    ∃ b call place, Item.block b call place ∈ items.map (·.2) ∧ t.test.span = call.span := by
  induction items generalizing tests with
  | nil =>
    obtain rfl := Except.ok.inj h
    cases ht
  | cons item items ih =>
    have later {rest : List Suite.ReadTest} (hRest : Suite.readTests items = .ok rest)
        (ht : t ∈ rest) : ∃ b call place, Item.block b call place ∈ (item :: items).map (·.2) ∧
          t.test.span = call.span := by
      obtain ⟨b, call, place, hItem, hSpan⟩ := ih hRest ht
      exact ⟨b, call, place, List.mem_cons_of_mem _ hItem, hSpan⟩
    obtain ⟨index, item⟩ := item
    cases item with
    | block b call place =>
      rw [Suite.readTests] at h
      split at h
      · rw [bind_eq_ok] at h
        obtain ⟨first, hFirst, h⟩ := h
        rw [bind_eq_ok] at h
        obtain ⟨rest, hRest, h⟩ := h
        obtain rfl := Except.ok.inj h
        rcases List.mem_cons.mp ht with rfl | ht
        · exact ⟨b, call, place, List.mem_cons_self, span_of_readTest hFirst⟩
        · exact later hRest ht
      · exact later h ht
    | call node => exact later h ht
    | declaration node describes => exact later h ht

/-- The tests of a suite stand where nodes of its tree do. -/
theorem exists_node_of_read {parse : Parser} {path : Text} {content : Content}
    {framework : Option Framework} {s : Suite}
    (h : Suite.read parse path content framework = .ok s) {t : TestCase} (ht : t ∈ s.tests) :
    ∃ grammar text, ∃ call ∈ (parse grammar text).root.nodes, t.span = call.span := by
  obtain ⟨grammar, text, outlined, -, -, hOutline, hs⟩ := exists_ofOutline_of_read h
  have tests_eq : s.tests = outlined.tests := by rw [hs]
  rw [Suite.ofOutline, bind_eq_ok] at hOutline
  obtain ⟨tests, hTests, hOutline⟩ := hOutline
  obtain rfl := Except.ok.inj hOutline
  rw [tests_eq] at ht
  obtain ⟨read, hRead, rfl⟩ := List.mem_map.mp ht
  obtain ⟨b, call, place, hItem, hSpan⟩ := exists_of_mem_readTests hTests hRead
  rw [map_snd_numberedFrom] at hItem
  obtain ⟨-, p, hp, hCall⟩ := exists_of_mem_itemsFrom hItem
  obtain ⟨child, hChild, rfl⟩ := List.mem_map.mp hp
  exact ⟨grammar, text, call, Node.mem_nodes_of_mem_children hCall hChild, hSpan⟩

theorem lineCount_le_of_read {parse : Parser} (fit : RowsFit parse) {path : Text}
    {content : Content} {framework : Option Framework} {s : Suite}
    (h : Suite.read parse path content framework = .ok s) {t : TestCase} (ht : t ∈ s.tests) :
    t.span.lineCount ≤ 2 ^ 32 := by
  obtain ⟨grammar, text, call, hCall, hSpan⟩ := exists_node_of_read h ht
  rw [hSpan]
  exact lineCount_span_le (fit grammar text call hCall)

/-! ### Outcomes -/

section

variable {α : Type} [ScoreNumber α] {parse : Parser} {config : Config} {job : Job}

/-- An audit refuses the files that reading refuses. -/
theorem analyze_eq_refused_iff {f : Suite.ParseFailure} :
    analyze α parse config job = .error (.refused f) ↔
      Suite.read parse job.path job.test config.framework = .error (.refused f) := by
  unfold analyze
  cases Suite.read parse job.path job.test config.framework with
  | error e => cases e <;> simp [AuditError.ofRead]
  | ok s =>
    dsimp only
    cases audit α config allRules s (factsFor parse config job s) <;> simp [Except.mapError]

/-- A number ends an audit where it ends the reading. -/
theorem analyze_eq_number_iff {number : NumberTooLarge} :
    analyze α parse config job = .error (.ended (.number number)) ↔
      Suite.read parse job.path job.test config.framework = .error (.tooLarge number) := by
  unfold analyze
  cases Suite.read parse job.path job.test config.framework with
  | error e => cases e <;> simp [AuditError.ofRead]
  | ok s =>
    dsimp only
    cases audit α config allRules s (factsFor parse config job s) <;> simp [Except.mapError]

end

/-- The one fault that a value of a test can have. -/
theorem eq_wholeBeyond_of_findSome? {ns : List Int} {fault : ScoreFault}
    (h : ns.findSome? (wholeFault? Float) = some fault) : fault = .wholeBeyond := by
  obtain ⟨n, -, hn⟩ := List.exists_of_findSome?_eq_some h
  unfold wholeFault? at hn
  split at hn
  · cases hn
  · exact (Option.some.inj hn).symm

section

variable {parse : Parser} (fit : RowsFit parse) {raw : List (Text × Json)} {config : Config}
  (accepted : Config.ofFields registry raw = .ok config) {job : Job} {s : Suite}

include fit accepted

/-- **A file that was read has an analysis**, unless the value of a test is beyond the doubles. -/
theorem analyze_double (h : Suite.read parse job.path job.test config.framework = .ok s) :
    (∃ a, analyze Float parse config job = .ok a) ∨
      analyze Float parse config job = .error (.ended (.score .wholeBeyond)) ∧
        config.perTest = true ∧ ¬ config.penalties.Nonneg := by
  have balanced : (weightsIn config s).Balanced := balanced_weightsFor accepted _
  have short : ∀ t ∈ s.tests, t.span.lineCount ≤ 2 ^ 64 :=
    fun t ht => (lineCount_le_of_read fit h ht).trans (by decide)
  have fault := analysisFault?_double balanced short (factsFor parse config job s)
  rw [analyze, h]
  dsimp only
  rw [audit_eq, fault]
  cases hPerTest : config.perTest with
  | false => exact .inl ⟨_, rfl⟩
  | true =>
    rw [if_pos rfl]
    cases hValues : (testValues Float s.tests (issuesIn config allRules s
        (factsFor parse config job s)) (weightsIn config s)
          config.penalties).findSome? (wholeFault? Float) with
    | none => exact .inl ⟨_, rfl⟩
    | some fault =>
      obtain rfl := eq_wholeBeyond_of_findSome? hValues
      refine .inr ⟨rfl, rfl, fun nonneg => ?_⟩
      rw [wholeFault?_testValues nonneg] at hValues
      cases hValues

end

/-- **What an audit comes to**, in doubles and under an accepted configuration. The file is refused,
for the syntax that it has, exactly if no grammar reads its path or it is not text. Any other file
has an analysis, whatever its tree, its source and its syntax errors, but for two cases: a literal
that its tests pass to a call has no value, for which a numeral beyond the doubles has to stand in
the tree; or the value of a test is beyond the doubles, for which a price or a cap has to be below
nothing. -/
theorem analyze_outcomes {parse : Parser} (fit : RowsFit parse) {raw : List (Text × Json)}
    {config : Config} (accepted : Config.ofFields registry raw = .ok config) {job : Job} :
    ((∃ f, analyze Float parse config job = .error (.refused f)) ↔
        Grammar.ofPath? job.path = none ∨ job.test.string? = none) ∧
      (∀ f, analyze Float parse config job = .error (.refused f) →
        f.path = job.path ∧ f.kind = .unsupportedSyntax) ∧
      (analyze Float parse config job = .error (.ended (.number {})) ↔
        ∃ grammar text, Grammar.ofPath? job.path = some grammar ∧ job.test.string? = some text ∧
          ∃ n ∈ testLiterals (parse grammar text).root, n.literal? = .error {}) ∧
      (∀ cause, analyze Float parse config job = .error (.ended cause) → cause = .number {} ∨
        cause = .score .wholeBeyond ∧ config.perTest = true ∧ ¬ config.penalties.Nonneg) ∧
      ∀ grammar text, Grammar.ofPath? job.path = some grammar → job.test.string? = some text →
        ¬ (parse grammar text).root.HoldsBeyond →
          (config.perTest = true → config.penalties.Nonneg) →
            ∃ a, analyze Float parse config job = .ok a := by
  refine ⟨?_, ?_, ?_, ?_, ?_⟩
  · simp only [analyze_eq_refused_iff]
    exact read_refused_iff
  · exact fun f h => refused_of_read (analyze_eq_refused_iff.mp h)
  · exact analyze_eq_number_iff.trans read_eq_tooLarge_iff
  · intro cause h
    cases hRead : Suite.read parse job.path job.test config.framework with
    | error e =>
      cases e with
      | refused f => cases h.symm.trans (analyze_eq_refused_iff.mpr hRead)
      | tooLarge number =>
        exact .inl (AuditError.ended.inj (Except.error.inj
          (h.symm.trans (analyze_eq_number_iff.mpr hRead))))
    | ok s =>
      rcases analyze_double fit accepted hRead with ⟨a, hOk⟩ | ⟨hFault, beyond⟩
      · cases h.symm.trans hOk
      · exact .inr ⟨AuditError.ended.inj (Except.error.inj (h.symm.trans hFault)), beyond⟩
  · intro grammar text hGrammar hText no_beyond nonneg
    cases hRead : Suite.read parse job.path job.test config.framework with
    | error e =>
      cases e with
      | refused f =>
        rcases read_refused_iff.mp ⟨f, hRead⟩ with h | h
        · rw [h] at hGrammar
          cases hGrammar
        · rw [h] at hText
          cases hText
      | tooLarge number =>
        exact absurd (holdsBeyond_of_read hRead hGrammar hText) no_beyond
    | ok s =>
      rcases analyze_double fit accepted hRead with hOk | ⟨-, perTest, negative⟩
      · exact hOk
      · exact absurd (nonneg perTest) negative

/-- A parser that takes every text for one test, which passes a numeral to a function. -/
def numeralParser (numeral : String) : Parser := fun _ _ =>
  let node (kind field text : String) (children : List Node) : Node :=
    .mk { kind, field, text } children
  let call (field callee : String) (arguments : List Node) : Node :=
    node "call_expression" field "" [node "identifier" "function" callee [],
      node "arguments" "arguments" "" arguments]
  let expect := call "object" "expect" [call "" "f" [node "number" "" numeral []]]
  let matcher := node "member_expression" "function" ""
    [expect, node "property_identifier" "property" "toBe" []]
  let callback := node "arrow_function" "" ""
    [node "formal_parameters" "parameters" "()" [],
      node "call_expression" "body" ""
        [matcher, node "arguments" "arguments" "" [node "number" "" "1" []]]]
  { root := node "program" "" ""
      [node "expression_statement" "" ""
        [call "" "it" [node "string" "" "'is huge'" [], callback]]] }

/-- The digits of a numeral beyond the doubles. -/
def hugeDigits : List Char :=
  List.replicate 256 'f'

/-- A numeral of 256 hexadecimal digits. -/
def hugeNumeral : String :=
  String.ofList ('0' :: 'x' :: hugeDigits)

theorem numeralValue_hugeNumeral : numeralValue hugeNumeral = .error {} := by
  have no_low_line : ('0' :: 'x' :: hugeDigits).filter (· != '_') = '0' :: 'x' :: hugeDigits := by
    decide +kernel
  have no_suffix : (('0' :: 'x' :: hugeDigits).reverse.dropWhile (· == 'n')).reverse =
      '0' :: 'x' :: hugeDigits := by
    decide +kernel
  have beyond : (wholeValue 16 hugeDigits).isOk = false := by decide +kernel
  rw [hugeNumeral, numeralValue_of_mark rfl no_low_line no_suffix]
  cases h : wholeValue 16 hugeDigits with
  | error e => rfl
  | ok value => simp [h, Except.isOk, Except.toBool] at beyond

/-- **A numeral of 256 hexadecimal digits ends the audit** of a file that is text in a known
grammar. -/
theorem analyze_outcomes_huge_numeral :
    let parse := numeralParser hugeNumeral
    let job : Job := { path := "huge.test.ts", test := .text "it('is huge', () => …)" }
    RowsFit parse ∧ Config.ofFields registry [] = .ok {} ∧
      Grammar.ofPath? job.path = some .typescript ∧
      job.test.string? = some "it('is huge', () => …)" ∧
      analyze Float parse {} job = .error (.ended (.number {})) := by
  intro parse job
  have rows : ∀ n ∈ (numeralParser hugeNumeral .typescript "").root.nodes,
      n.label.stop.row < 2 ^ 32 := by
    decide +kernel
  have fit : RowsFit parse := fun _ _ => rows
  have accepted : Config.ofFields registry [] = .ok {} := rfl
  have grammar : Grammar.ofPath? job.path = some .typescript := by decide +kernel
  have passed : ((testLiterals (numeralParser hugeNumeral .typescript "").root).any fun n =>
      n.kind == "number" && n.text == hugeNumeral) = true := by
    decide +kernel
  obtain ⟨n, hn, number⟩ := List.any_eq_true.mp passed
  rw [Bool.and_eq_true, beq_iff_eq, beq_iff_eq] at number
  have no_value : n.literal? = .error {} :=
    n.literal?_eq_error number.1 (by rw [number.2, numeralValue_hugeNumeral])
  obtain ⟨-, -, number_iff, -, -⟩ := @analyze_outcomes parse fit [] {} accepted job
  exact ⟨fit, accepted, grammar, rfl, number_iff.mpr ⟨_, _, grammar, rfl, n, hn, no_value⟩⟩

end SuiteAudit
