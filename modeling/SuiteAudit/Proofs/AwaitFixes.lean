import SuiteAudit.Proofs.BlockScopes
import SuiteAudit.Proofs.FactSites
import SuiteAudit.Proofs.Findings
import SuiteAudit.Proofs.Openings

/-!
# Awaits that are put in

A promise that a test forgets is mended by an `await` in front of it, if the callback of the test is
asynchronous. But the assertions of a test are read off its whole body, and those in functions
inside the callback are mended like those of the callback itself. So the mended file is legal
exactly where no such function around the assertion comes between, or the innermost of them is
asynchronous (`await_fixes`).
-/

namespace SuiteAudit

open Syntax

/-! ### Functions around a place -/

namespace Syntax.Located

/-- **The innermost function around a place.** -/
def function? (l : Located) : Option Node :=
  l.above.find? (·.isFunction)

/-- **Where an `await` may stand**: the innermost function around the place is asynchronous. -/
def MayAwait (l : Located) : Prop :=
  ∃ f, l.function? = some f ∧ f.isAsync = true

end Syntax.Located

namespace Body

/-- **The callback is above every place of its body.** -/
theorem exists_above_eq {callback : Node} {b : Body} {l : Located} (h : of? callback = some b)
    (hl : l ∈ b.places) : ∃ inner, l.above = inner ++ [callback] := by
  obtain ⟨root, -, rfl⟩ := Option.map_eq_some_iff.mp h
  have below : Located.Below ⟨root, [callback]⟩ l := Located.below_of_mem_places hl
  induction below with
  | self => exact ⟨[], rfl⟩
  | @child l m hBelow _ ih =>
    obtain ⟨inner, hAbove⟩ := ih (Located.mem_places_iff.mpr hBelow)
    exact ⟨l.node :: inner, by rw [hAbove, List.cons_append]⟩

end Body

/-- **In an asynchronous function an `await` may stand** unless another function around it comes
between, and is not asynchronous. -/
theorem mayAwait_iff {callback : Node} {l : Located} {inner : List Node}
    (h : l.above = inner ++ [callback]) (hFunction : callback.isFunction = true)
    (hAsync : callback.isAsync = true) :
    l.MayAwait ↔ ∀ f, inner.find? (·.isFunction) = some f → f.isAsync = true := by
  rw [Located.MayAwait, Located.function?, h, List.find?_append]
  cases inner.find? (·.isFunction) with
  | none => simp [hFunction, hAsync]
  | some f => simp

/-! ### Promises that are forgotten -/

namespace Rules

/-- **A promise that nobody waits for**, in a test that runs: an assertion of the chain at a place
in the body of the callback. -/
structure Forgotten (root : Node) (s : Suite) (callback : Node) (l : Located) (a : Assertion) :
    Prop where
  runs : ∃ (index : Nat) (p : PlacedBlock) (t : TestCase) (b : Body),
    (PlacedBlock.tests (blocksOf root))[index]? = some p ∧ s.tests[index]? = some t ∧
      p.Gives t ∧ t.isActive = true ∧ p.block.callback = some callback ∧
      Body.of? callback = some b ∧ l ∈ b.places ∧ a ∈ b.assertionsAt l
  waits : needsAwait s.framework a = true

/-- **What is told of a forgotten promise that can be mended**: an `await` is put in where its chain
begins. -/
def mendedFinding (n : Node) (a : Assertion) : Finding where
  message := "'" ++ a.matcher ++ "' returns a promise that is never awaited"
  span := n.span
  fix := some
    { span := .of n.span.line n.span.column n.span.line n.span.column, replacement := "await " }

/-- **What a test is told with a mending edit** is told of the promises that it forgets, if it is
asynchronous. -/
theorem mem_awaitFindings_iff {framework : Framework} {t : TestCase} {f : Finding} :
    f ∈ awaitFindings framework t ∧ f.fix.isSome = true ↔
      t.isAsync = true ∧ ∃ a ∈ t.assertions, needsAwait framework a = true ∧
        f = awaitFinding t a := by
  rw [awaitFindings, List.mem_append]
  constructor
  · rintro ⟨hMem | hMem, hFix⟩
    · obtain ⟨a, ha, rfl⟩ := List.mem_map.mp hMem
      obtain ⟨ha, waits⟩ := List.mem_filter.mp ha
      have hAsync : t.isAsync = true := by
        by_contra hNot
        simp [awaitFinding, hNot] at hFix
      exact ⟨hAsync, a, ha, waits, rfl⟩
    · split at hMem
      · rw [List.mem_singleton.mp hMem] at hFix
        cases hFix
      · cases hMem
  · rintro ⟨hAsync, a, ha, waits, rfl⟩
    exact ⟨.inl (List.mem_map_of_mem (List.mem_filter.mpr ⟨ha, waits⟩)),
      by simp [awaitFinding, hAsync]⟩

/-- An assertion has the span of its chain. -/
theorem span_of_mem_assertionsAt {b : Body} {l : Located} {a : Assertion}
    (h : a ∈ b.assertionsAt l) : a.span = l.node.span := by
  obtain ⟨_, -, rfl⟩ := List.mem_map.mp h
  rfl

/-- **The assertions of a test** are those of the places of its body, and it is asynchronous if its
callback is. -/
theorem mem_assertions_of_read_iff {p : PlacedBlock} {index : Nat} {t : Suite.ReadTest}
    (h : p.read index = .ok t) {a : Assertion} :
    t.test.isAsync = true ∧ a ∈ t.test.assertions ↔
      ∃ callback b l, p.block.callback = some callback ∧ callback.isAsync = true ∧
        Body.of? callback = some b ∧ l ∈ b.places ∧ a ∈ b.assertionsAt l := by
  obtain ⟨calls, test_eq⟩ := PlacedBlock.exists_testOf_of_read h
  rw [test_eq, Suite.testOf]
  cases p.block.callback with
  | none => simp
  | some callback =>
    cases hBody : Body.of? callback with
    | none => simp [hBody]
    | some b => simp [hBody, Body.assertions]

/-- **A finding of a suite has a mending edit** exactly if it is told of a promise that a test with
an asynchronous callback forgets. -/
theorem mended_iff_forgotten {root : Node} {s : Suite} {tests : List Suite.ReadTest}
    (hTests : PlacedBlock.readFrom 0 (PlacedBlock.tests (blocksOf root)) = .ok tests)
    (tests_eq : s.tests = tests.map (·.test)) {f : Finding} :
    (∃ t ∈ s.activeTests, f ∈ awaitFindings s.framework t ∧ f.fix.isSome = true) ↔
      ∃ callback l a, Forgotten root s callback l a ∧ callback.isAsync = true ∧
        f = mendedFinding l.node a := by
  -- The edit stands where the assertion does, and that is where its chain begins.
  have mended {l : Located} {a : Assertion} {t : TestCase} {b : Body}
      (hAsync : t.isAsync = true) (ha : a ∈ b.assertionsAt l) :
      awaitFinding t a = mendedFinding l.node a := by
    rw [awaitFinding, mendedFinding, span_of_mem_assertionsAt ha, if_pos hAsync]
  constructor
  · rintro ⟨t, ht, told⟩
    obtain ⟨ht, active⟩ := List.mem_filter.mp ht
    obtain ⟨hAsync, a, ha, waits, rfl⟩ := mem_awaitFindings_iff.mp told
    obtain ⟨index, hIndex⟩ := List.mem_iff_getElem?.mp ht
    obtain ⟨p, read, _, hp, hRead, rfl⟩ := exists_read_of_getElem?_map hTests (tests_eq ▸ hIndex)
    obtain ⟨callback, b, l, hCallback, callback_async, hBody, hl, hMem⟩ :=
      (mem_assertions_of_read_iff hRead).mp ⟨hAsync, ha⟩
    have gives := PlacedBlock.gives_of_read hRead
    exact ⟨callback, l, a,
      ⟨⟨index, p, read.test, b, hp, hIndex, gives, active, hCallback, hBody, hl, hMem⟩, waits⟩,
      callback_async, mended hAsync hMem⟩
  · rintro ⟨callback, l, a, ⟨runs, waits⟩, callback_async, rfl⟩
    obtain ⟨index, p, t, b, hp, ht, -, active, hCallback, hBody, hl, hMem⟩ := runs
    obtain ⟨q, read, _, hq, hRead, rfl⟩ := exists_read_of_getElem?_map hTests (tests_eq ▸ ht)
    obtain rfl : p = q := Option.some.inj (hp.symm.trans hq)
    obtain ⟨hAsync, ha⟩ := (mem_assertions_of_read_iff hRead).mpr
      ⟨callback, b, l, hCallback, callback_async, hBody, hl, hMem⟩
    exact ⟨read.test, List.mem_filter.mpr ⟨List.mem_of_getElem? ht, active⟩,
      mem_awaitFindings_iff.mpr ⟨hAsync, a, ha, waits, (mended hAsync hMem).symm⟩⟩

/-- What a test forgets lies below its callback, which is a function. -/
theorem Forgotten.below_callback {root callback : Node} {s : Suite} {l : Located} {a : Assertion}
    (h : Forgotten root s callback l a) :
    callback.isFunction = true ∧ ∃ inner, l.above = inner ++ [callback] := by
  obtain ⟨index, p, t, b, hp, -, -, -, hCallback, hBody, hl, -⟩ := h.runs
  obtain ⟨hMem, hTest⟩ := List.mem_filter.mp (List.mem_of_getElem? hp)
  obtain ⟨_, -, hOpen, -⟩ := mem_blocksOf_iff.mp hMem
  rw [Block.callback_eq_of_ofCall? (ofCall?_of_block? hOpen) (by simp [eq_of_beq hTest])]
    at hCallback
  exact ⟨(List.mem_filter.mp (List.mem_of_getLast? hCallback)).2, Body.exists_above_eq hBody hl⟩

/-- **Mending edits put an `await` in front of each promise that a test with an asynchronous
callback forgets**, and nowhere else. It may stand there exactly if the innermost of the functions
between the place and the callback, should there be any, is asynchronous as well. -/
theorem await_fixes {parse : Parser} {path : Text} {content : Content}
    {framework : Option Framework} {s : Suite}
    (h : Suite.read parse path content framework = .ok s) {ctx : RuleContext}
    (hSuite : ctx.suite = s) :
    ∃ grammar text issues, Grammar.ofPath? path = some grammar ∧ content.string? = some text ∧
      missingAwait.run ctx = .ok issues ∧
      (∀ i, i ∈ issues ∧ i.fix.isSome = true ↔
        ∃ callback l a, Forgotten (parse grammar text).root s callback l a ∧
          callback.isAsync = true ∧ i = missingAwait.issue (mendedFinding l.node a)) ∧
      ∀ callback l a, Forgotten (parse grammar text).root s callback l a →
        callback.isAsync = true → ∃ inner, l.above = inner ++ [callback] ∧
          (l.MayAwait ↔ ∀ f, inner.find? (·.isFunction) = some f → f.isAsync = true) := by
  obtain ⟨grammar, text, tests, hGrammar, hText, hTests, tests_eq⟩ := exists_readFrom_of_read h
  refine ⟨grammar, text, (s.activeTests.flatMap (awaitFindings s.framework)).map missingAwait.issue,
    hGrammar, hText, by rw [← hSuite]; rfl, fun i => ?_, fun callback l a forgotten hAsync => ?_⟩
  · constructor
    · rintro ⟨hMem, hFix⟩
      obtain ⟨f, hf, rfl⟩ := List.mem_map.mp hMem
      obtain ⟨t, ht, hf⟩ := List.mem_flatMap.mp hf
      obtain ⟨callback, l, a, forgotten, hAsync, rfl⟩ :=
        (mended_iff_forgotten hTests tests_eq).mp ⟨t, ht, hf, hFix⟩
      exact ⟨callback, l, a, forgotten, hAsync, rfl⟩
    · rintro ⟨callback, l, a, forgotten, hAsync, rfl⟩
      obtain ⟨t, ht, hf, -⟩ :=
        (mended_iff_forgotten hTests tests_eq).mpr ⟨callback, l, a, forgotten, hAsync, rfl⟩
      exact ⟨List.mem_map_of_mem (List.mem_flatMap.mpr ⟨t, ht, hf⟩), rfl⟩
  · obtain ⟨hFunction, inner, hAbove⟩ := forgotten.below_callback
    exact ⟨inner, hAbove, mayAwait_iff hAbove hFunction hAsync⟩

/-- A file with an asynchronous test, whose callback passes on a function that is not:
`it('loads', async () => { each((id) => { expect(id).resolves.toBe(1); }); })`. -/
def nestedPromise : Node :=
  let node (kind field text : String) (children : List Node) : Node :=
    .mk { kind, field, text } children
  let call (callee : Node) (passed : List Node) : Node :=
    node "call_expression" "" "" [callee, node "arguments" "arguments" "" passed]
  let member (field name : String) (object : Node) : Node :=
    node "member_expression" field "" [object, node "property_identifier" "property" name []]
  let expected : Node :=
    node "call_expression" "object" ""
      [node "identifier" "function" "expect" [],
        node "arguments" "arguments" "" [node "identifier" "" "id" []]]
  let chain : Node :=
    call (member "function" "toBe" (member "object" "resolves" expected))
      [node "number" "" "1" []]
  let block (statement : Node) : Node :=
    node "statement_block" "body" "" [node "expression_statement" "" "" [statement]]
  node "program" "" ""
    [call (node "identifier" "function" "it" [])
      [node "string" "" "'loads'" [],
        node "arrow_function" "" ""
          [node "async" "" "async" [],
            block (call (node "identifier" "function" "each" [])
              [node "arrow_function" "" "" [block chain]])]]]

/-- A parser that takes every text for that file. -/
def nestedPromiseParser : Parser := fun _ _ => { root := nestedPromise }

/-- Wherever a test of that file asserts something, the innermost function is not asynchronous. -/
theorem not_mayAwait_nestedPromise {p : PlacedBlock} {callback : Node} {b : Body} {l : Located}
    {a : Assertion} (hp : p ∈ PlacedBlock.tests (blocksOf nestedPromise))
    (hCallback : p.block.callback = some callback) (hBody : Body.of? callback = some b)
    (hl : l ∈ b.places) (ha : a ∈ b.assertionsAt l) : ¬l.MayAwait := by
  have everywhere : (PlacedBlock.tests (blocksOf nestedPromise)).all fun p =>
      (p.block.callback.bind Body.of?).all fun b => b.places.all fun l =>
        (b.assertionsAt l).isEmpty || l.function?.all fun f => !f.isAsync := by
    decide +kernel
  have here := List.all_eq_true.mp everywhere p hp
  rw [hCallback, Option.bind_some, hBody, Option.all_some] at here
  have here := List.all_eq_true.mp here l hl
  have asserts : (b.assertionsAt l).isEmpty = false := by
    rw [List.isEmpty_eq_false_iff]
    exact List.ne_nil_of_mem ha
  rw [asserts, Bool.false_or] at here
  rintro ⟨f, hFunction, hAsync⟩
  simp [hFunction, hAsync] at here

/-- In that file an `await` is put in where none may stand. -/
theorem await_fixes_nested :
    ∃ s issues, Suite.read nestedPromiseParser "orders.test.ts" (.text "") (some .vitest) = .ok s ∧
      missingAwait.run { suite := s } = .ok issues ∧
      ∃ i ∈ issues, ∃ callback l a, Forgotten nestedPromise s callback l a ∧
        callback.isAsync = true ∧ i = missingAwait.issue (mendedFinding l.node a) ∧
        ¬l.MayAwait := by
  have mends : (Suite.read nestedPromiseParser "orders.test.ts" (.text "")
      (some .vitest)).toOption.map (fun s =>
        (missingAwait.run { suite := s }).toOption.map fun issues =>
          issues.any (·.fix.isSome)) = some (some true) := by
    decide +kernel
  cases hRead : Suite.read nestedPromiseParser "orders.test.ts" (.text "") (some .vitest) with
  | error e => simp [hRead, Except.toOption] at mends
  | ok s =>
    obtain ⟨_, _, issues, -, -, hRun, fixes, -⟩ :=
      await_fixes hRead (show ({ suite := s } : RuleContext).suite = s from rfl)
    rw [hRead] at mends
    have mends : (missingAwait.run { suite := s }).toOption.map _ = some true :=
      Option.some.inj mends
    rw [hRun] at mends
    obtain ⟨i, hi, hFix⟩ := List.any_eq_true.mp (Option.some.inj mends)
    obtain ⟨callback, l, a, forgotten, hAsync, rfl⟩ := (fixes i).mp ⟨hi, hFix⟩
    obtain ⟨index, p, t, b, hp, -, -, -, hCallback, hBody, hl, ha⟩ := forgotten.runs
    exact ⟨s, issues, rfl, hRun, _, hi, callback, l, a, forgotten, hAsync, rfl,
      not_mayAwait_nestedPromise (List.mem_of_getElem? hp) hCallback hBody hl ha⟩

end Rules

end SuiteAudit
