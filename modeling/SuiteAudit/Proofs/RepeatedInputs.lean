import Mathlib.Data.List.Induction
import SuiteAudit.Proofs.FailedRules

/-!
# Repeated inputs

The rule on repeated inputs goes through the calls of all tests with two tables: where a call first
came, and which calls it has told of. Before each call the tables say who made which call so far
(`Tells`), and one more call keeps them right (`Tells.step`). So in the end every call that several
tests make is told once, at the second of these tests (`repeated_inputs_once`).
-/

namespace SuiteAudit.Rules

/-! ### Who makes a call -/

/-- Whether the repetitions of a test count: it runs, and not for each row of a table. -/
def repeats (t : TestCase) : Bool :=
  t.isActive && !t.parameterized

/-- **Whether a test makes a call** with these literals, in these blocks, so that it counts. -/
def CallKey.madeIn (key : CallKey) (t : TestCase) : Bool :=
  repeats t && t.describes == key.describes && t.literalCalls.contains (key.callee, key.args)

/-- **The tests that make a call**, in the order of the file. -/
def callers (tests : List TestCase) (key : CallKey) : List TestCase :=
  tests.filter key.madeIn

/-- **What is told of a repeated call**, at the second test that makes it. -/
def repetition (key : CallKey) (first second : TestCase) : Finding where
  message :=
    key.callee ++ "(" ++ key.args ++ ") is repeated in '" ++ first.name ++ "' and '" ++
      second.name ++ "'"
  span := second.span

/-! ### One call after the other -/

/-- A call of a test that counts, with the test and its place in the file. -/
structure MadeCall where
  test : TestCase
  index : Nat
  call : Text × Text

/-- What makes two calls the same. -/
def MadeCall.key (c : MadeCall) : CallKey where
  describes := c.test.describes
  callee := c.call.1
  args := c.call.2

/-- **The calls that count**, each once for every test. -/
def madeCalls (tests : List (TestCase × Nat)) : List MadeCall :=
  tests.flatMap fun t =>
    if repeats t.1 then t.1.literalCalls.eraseDups.map fun call => ⟨t.1, t.2, call⟩ else []

/-- Those of the calls that are the same as one. -/
def callsOf (calls : List MadeCall) (key : CallKey) : List MadeCall :=
  calls.filter (·.key == key)

section

variable {tests : List TestCase} {calls : List MadeCall} {state : RepetitionState}

theorem foldl_test (numbered : List (TestCase × Nat)) :
    numbered.foldl (RepetitionState.test tests) state =
      (madeCalls numbered).foldl (fun s c => s.call tests c.index c.test c.call) state := by
  rw [madeCalls, List.foldl_flatMap]
  congr 1
  funext s t
  rw [RepetitionState.test, repeats]
  split
  · rw [List.foldl_map]
  · rfl

/-- The tables after a call: the first one of its kind is written down. -/
theorem call_of_new {c : MadeCall} (h : state.seen.lookup c.key = none) :
    state.call tests c.index c.test c.call =
      { state with seen := (c.key, c.index) :: state.seen } := by
  have lookup_eq : state.seen.lookup
      { describes := c.test.describes, callee := c.call.1, args := c.call.2 } = none := h
  rw [RepetitionState.call]
  simp only [lookup_eq]
  rfl

/-- The tables after a call that another test has made: it is told unless it was told before. -/
theorem call_of_known {c first : MadeCall} (h : state.seen.lookup c.key = some first.index)
    (stands : tests[first.index]? = some first.test) (elsewhere : first.index ≠ c.index) :
    state.call tests c.index c.test c.call =
      if state.reported.contains c.key then state
      else { state with
        reported := c.key :: state.reported
        findings := state.findings ++ [repetition c.key first.test c.test] } := by
  have lookup_eq : state.seen.lookup
      { describes := c.test.describes, callee := c.call.1, args := c.call.2 } =
        some first.index := h
  rw [RepetitionState.call]
  simp only [lookup_eq, beq_false_of_ne elsewhere, Bool.false_or, stands]
  rfl

theorem callsOf_concat (c : MadeCall) (key : CallKey) :
    callsOf (calls ++ [c]) key = callsOf calls key ++ if c.key == key then [c] else [] := by
  rw [callsOf, List.filter_append, List.filter_cons, List.filter_nil]
  rfl

theorem callsOf_concat_self (c : MadeCall) :
    callsOf (calls ++ [c]) c.key = callsOf calls c.key ++ [c] := by
  rw [callsOf_concat, if_pos (beq_self_eq_true _)]

theorem callsOf_concat_of_ne {c : MadeCall} {key : CallKey} (h : key ≠ c.key) :
    callsOf (calls ++ [c]) key = callsOf calls key := by
  rw [callsOf_concat, if_neg (by simpa using h.symm), List.append_nil]

/-- **What the tables tell of the calls so far**: where each was first made, which were made by more
than one test, and what is said of these. -/
structure Tells (calls : List MadeCall) (state : RepetitionState) : Prop where
  seen : ∀ key, state.seen.lookup key = (callsOf calls key).head?.map (·.index)
  nodup : state.reported.Nodup
  reported : ∀ key, key ∈ state.reported ↔ 2 ≤ (callsOf calls key).length
  findings : List.Forall₂ (fun key f => ∃ first second others,
      callsOf calls key = first :: second :: others ∧
        f = repetition key first.test second.test)
    state.reported.reverse state.findings

/-- Where a call first came stays when more calls come. -/
theorem Tells.seen_concat (h : Tells calls state) {c first : MadeCall} {rest : List MadeCall}
    (hCalls : callsOf calls c.key = first :: rest) (key : CallKey) :
    state.seen.lookup key = (callsOf (calls ++ [c]) key).head?.map (·.index) := by
  rw [h.seen key]
  by_cases hKey : key = c.key
  · rw [hKey, callsOf_concat_self, hCalls]
    rfl
  · rw [callsOf_concat_of_ne hKey]

/-- What is said of a call stays when more calls come. -/
theorem Tells.findings_concat (h : Tells calls state) (c : MadeCall) :
    List.Forall₂ (fun key f => ∃ first second others,
        callsOf (calls ++ [c]) key = first :: second :: others ∧
          f = repetition key first.test second.test)
      state.reported.reverse state.findings := by
  refine h.findings.imp fun key f ⟨first, second, others, calls_eq, told⟩ => ?_
  rw [callsOf_concat, calls_eq]
  exact ⟨first, second, _, rfl, told⟩

/-- **A call that comes for the first time** is written down. -/
theorem Tells.step_new (h : Tells calls state) {c : MadeCall} (hCalls : callsOf calls c.key = []) :
    Tells (calls ++ [c]) (state.call tests c.index c.test c.call) := by
  have lookup_eq := h.seen c.key
  have reported_iff := h.reported c.key
  rw [hCalls] at lookup_eq reported_iff
  rw [call_of_new lookup_eq]
  refine ⟨fun key => ?_, h.nodup, fun key => ?_, h.findings_concat c⟩
  · by_cases hKey : key = c.key
    · rw [hKey, List.lookup_cons_self, callsOf_concat_self, hCalls]
      rfl
    · rw [callsOf_concat_of_ne hKey, ← h.seen key, List.lookup_cons, beq_false_of_ne hKey]
  · by_cases hKey : key = c.key
    · rw [hKey, callsOf_concat_self, hCalls]
      simpa using reported_iff
    · rw [callsOf_concat_of_ne hKey, h.reported key]

/-- **A call that one other test has made** is told. -/
theorem Tells.step_second (h : Tells calls state) {c first : MadeCall}
    (hCalls : callsOf calls c.key = [first]) (stands : tests[first.index]? = some first.test)
    (elsewhere : first.index ≠ c.index) :
    Tells (calls ++ [c]) (state.call tests c.index c.test c.call) := by
  have lookup_eq := h.seen c.key
  have untold : c.key ∉ state.reported := by
    rw [h.reported, hCalls]
    simp
  rw [hCalls] at lookup_eq
  rw [call_of_known lookup_eq stands elsewhere, if_neg (by simpa using untold)]
  have calls_eq : callsOf (calls ++ [c]) c.key = [first, c] := by
    rw [callsOf_concat_self, hCalls]
    rfl
  refine ⟨h.seen_concat hCalls, List.nodup_cons.mpr ⟨untold, h.nodup⟩, fun key => ?_, ?_⟩
  · rw [List.mem_cons]
    by_cases hKey : key = c.key
    · rw [hKey, calls_eq]
      simp
    · rw [or_iff_right hKey, callsOf_concat_of_ne hKey, h.reported key]
  · rw [List.reverse_cons]
    exact List.rel_append (h.findings_concat c) (.cons ⟨first, c, [], calls_eq, rfl⟩ .nil)

/-- **A call that several tests have made** changes nothing any more. -/
theorem Tells.step_again (h : Tells calls state) {c first second : MadeCall}
    {others : List MadeCall} (hCalls : callsOf calls c.key = first :: second :: others)
    (stands : tests[first.index]? = some first.test) (elsewhere : first.index ≠ c.index) :
    Tells (calls ++ [c]) (state.call tests c.index c.test c.call) := by
  have lookup_eq := h.seen c.key
  have told : c.key ∈ state.reported := by
    rw [h.reported, hCalls]
    simp
  rw [hCalls] at lookup_eq
  rw [call_of_known lookup_eq stands elsewhere, if_pos (by simpa using told)]
  refine ⟨h.seen_concat hCalls, h.nodup, fun key => ?_, h.findings_concat c⟩
  by_cases hKey : key = c.key
  · rw [hKey, callsOf_concat_self, hCalls]
    simpa using told
  · rw [callsOf_concat_of_ne hKey, h.reported key]

/-- **One more call keeps the tables right**, if its test has not made it before. -/
theorem Tells.step (h : Tells calls state) {c : MadeCall}
    (known : ∀ d ∈ calls, tests[d.index]? = some d.test)
    (fresh : ∀ d ∈ calls, d.key = c.key → d.index ≠ c.index) :
    Tells (calls ++ [c]) (state.call tests c.index c.test c.call) := by
  cases hCalls : callsOf calls c.key with
  | nil => exact h.step_new hCalls
  | cons first rest =>
    obtain ⟨first_mem, first_key⟩ :=
      List.mem_filter.mp (hCalls ▸ List.mem_cons_self : first ∈ callsOf calls c.key)
    have stands := known first first_mem
    have elsewhere := fresh first first_mem (eq_of_beq first_key)
    cases rest with
    | nil => exact h.step_second hCalls stands elsewhere
    | cons second others => exact h.step_again hCalls stands elsewhere

/-- **After all calls the tables are right**, if no test makes a call twice. -/
theorem tells_foldl (known : ∀ c ∈ calls, tests[c.index]? = some c.test)
    (fresh : calls.Pairwise fun c d => c.key = d.key → c.index ≠ d.index) :
    Tells calls (calls.foldl (fun s c => s.call tests c.index c.test c.call) {}) := by
  induction calls using List.reverseRecOn with
  | nil => exact ⟨fun key => rfl, List.nodup_nil, by simp [callsOf], .nil⟩
  | append_singleton calls c ih =>
    rw [List.forall_mem_append, List.forall_mem_singleton] at known
    obtain ⟨fresh, -, later⟩ := List.pairwise_append.mp fresh
    rw [List.foldl_concat]
    exact (ih known.1 fresh).step known.1 fun d hd => later d hd c (List.mem_singleton_self c)

end

/-! ### The calls of a file -/

theorem mem_madeCalls_iff {numbered : List (TestCase × Nat)} {c : MadeCall} :
    c ∈ madeCalls numbered ↔
      (c.test, c.index) ∈ numbered ∧ repeats c.test = true ∧ c.call ∈ c.test.literalCalls := by
  obtain ⟨t, index, call⟩ := c
  rw [madeCalls, List.mem_flatMap]
  constructor
  · rintro ⟨⟨u, k⟩, hMem, hc⟩
    split at hc
    · next counts =>
      obtain ⟨call', hCall, made_eq⟩ := List.mem_map.mp hc
      obtain ⟨rfl, rfl, rfl⟩ := MadeCall.mk.inj made_eq
      exact ⟨hMem, counts, List.mem_eraseDups.mp hCall⟩
    · cases hc
  · rintro ⟨hMem, counts, hCall⟩
    refine ⟨(t, index), hMem, ?_⟩
    rw [if_pos counts]
    exact List.mem_map.mpr ⟨call, List.mem_eraseDups.mpr hCall, rfl⟩

/-- No test makes a call twice. -/
theorem fresh_madeCalls {numbered : List (TestCase × Nat)}
    (distinct : numbered.Pairwise fun t u => t.2 ≠ u.2) :
    (madeCalls numbered).Pairwise fun c d => c.key = d.key → c.index ≠ d.index := by
  rw [madeCalls, List.pairwise_flatMap]
  refine ⟨fun t _ => ?_, distinct.imp fun {t u} apart c hc d hd _ => ?_⟩
  · split
    · rw [List.pairwise_map]
      refine (nodup_eraseDups t.1.literalCalls).imp fun {x y} differ same => ?_
      exact absurd (Prod.ext (congrArg CallKey.callee same) (congrArg CallKey.args same)) differ
    · exact .nil
  · have index_eq {t : TestCase × Nat} {c : MadeCall}
        (h : c ∈ if repeats t.1 then t.1.literalCalls.eraseDups.map fun call => ⟨t.1, t.2, call⟩
          else []) : c.index = t.2 := by
      split at h
      · obtain ⟨_, -, rfl⟩ := List.mem_map.mp h
        rfl
      · cases h
    rw [index_eq hc, index_eq hd]
    exact apart

/-- **The calls of a key are made by its callers**, once by each. -/
theorem map_callsOf_madeCalls (numbered : List (TestCase × Nat)) (key : CallKey) :
    (callsOf (madeCalls numbered) key).map (·.test) = callers (numbered.map (·.1)) key := by
  have one (t : TestCase × Nat) :
      (((if repeats t.1 then t.1.literalCalls.eraseDups.map fun call => MadeCall.mk t.1 t.2 call
        else []).filter (·.key == key)).map (·.test)) = [t.1].filter key.madeIn := by
    rw [List.filter_cons, List.filter_nil, CallKey.madeIn]
    split
    · next counts =>
      have key_eq (call : Text × Text) : ((MadeCall.mk t.1 t.2 call).key == key) =
          (t.1.describes == key.describes && call == (key.callee, key.args)) := by
        obtain ⟨describes, callee, args⟩ := key
        rw [Bool.eq_iff_iff]
        simp [MadeCall.key, Prod.ext_iff]
      rw [List.filter_map, List.map_map]
      simp only [Function.comp_def, key_eq, counts, Bool.true_and]
      by_cases same : (t.1.describes == key.describes) = true
      · simp only [same, Bool.true_and]
        rw [List.filter_beq, (nodup_eraseDups _).count]
        simp only [List.mem_eraseDups, List.contains_iff_mem]
        split <;> rfl
      · simp [same]
    · next not_counting => simp [not_counting]
  rw [callsOf, madeCalls, callers]
  induction numbered with
  | nil => rfl
  | cons t numbered ih =>
    rw [List.flatMap_cons, List.filter_append, List.map_append, ih, one, ← List.filter_append]
    rfl

/-- **Repeated inputs are told once each.** For every list of tests there is one issue for each call
that several of the tests make, and none for any other. It stands at the second of these tests in
the file and names the first. Tests that do not run or go through a table do not count, and a call
that one test repeats counts once. -/
theorem repeated_inputs_once (ctx : RuleContext) :
    ∃ keys issues, repeatedLiteralInput.run ctx = .ok issues ∧ keys.Nodup ∧
      (∀ key, key ∈ keys ↔ 2 ≤ (callers ctx.suite.tests key).length) ∧
      List.Forall₂ (fun key i => ∃ first second others,
          callers ctx.suite.tests key = first :: second :: others ∧
            i = repeatedLiteralInput.issue (repetition key first second)) keys issues := by
  let calls := madeCalls ctx.suite.tests.zipIdx
  have callers_eq (key : CallKey) :
      (callsOf calls key).map (·.test) = callers ctx.suite.tests key := by
    rw [map_callsOf_madeCalls, List.zipIdx_map_fst]
  have numbered : ctx.suite.tests.zipIdx.Pairwise fun t u => t.2 ≠ u.2 := by
    have numbers : (List.range' 0 ctx.suite.tests.length).Nodup := List.nodup_range'
    rwa [← List.zipIdx_map_snd 0 ctx.suite.tests, List.Nodup, List.pairwise_map] at numbers
  have known : ∀ c ∈ calls, ctx.suite.tests[c.index]? = some c.test := fun c hc =>
    List.mem_zipIdx_iff_getElem?.mp (mem_madeCalls_iff.mp hc).1
  have told := tells_foldl known (fresh_madeCalls numbered)
  rw [← foldl_test] at told
  refine ⟨_, _, rfl, List.nodup_reverse.mpr told.nodup, fun key => ?_, ?_⟩
  · rw [List.mem_reverse, told.reported key, ← callers_eq, List.length_map]
  · rw [List.forall₂_map_right_iff]
    refine told.findings.imp fun key f ⟨first, second, others, calls_eq, finding_eq⟩ => ?_
    refine ⟨first.test, second.test, others.map (·.test), ?_, by rw [finding_eq]⟩
    rw [← callers_eq, calls_eq]
    rfl

end SuiteAudit.Rules
