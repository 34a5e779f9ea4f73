import SuiteAudit.Proofs.AwaitFixes
import SuiteAudit.Proofs.FailedRules
import SuiteAudit.Proofs.LineNumbers
import SuiteAudit.Proofs.Openings
import SuiteAudit.Proofs.SharedLines
import SuiteAudit.Proofs.BlockScopes

/-!
# Indices of tests

A suite names its tests by their places: literals, mocks and shared variables carry indices, and the
markers of tests stand in the order of the tests. All of them are taken while the file is read, each
test being read with its own index (`exists_read_at`), so they name tests that the suite has. What a
test is said to hold was read off parts of its call; so where the bytes of a tree are nested, it
stands within the test (`suite_indices_consistent`).
-/

namespace SuiteAudit

open Syntax Outline

/-! ### Points and bytes -/

namespace Syntax

/-- **The points of a tree are places of a text**: those of the bytes at which its nodes begin and
end. -/
def Node.PointsInto (text : String) (root : Node) : Prop :=
  ∀ n ∈ root.nodes, n.label.last ≤ text.toUTF8.toList.length ∧
    n.label.start = (FileBytes.ofText text).pointAt n.label.first ∧
    n.label.stop = (FileBytes.ofText text).pointAt n.label.last

/-- **The points of a listed tree are places of its file**, where its nodes end inside. -/
theorem pointsInto_of_ofListing? {text : String} {listing : List Entry} {root : Node}
    (h : Node.ofListing? (FileBytes.ofText text) listing = some root)
    (inside : ∀ e ∈ listing, e.last ≤ text.toUTF8.toList.length) : root.PointsInto text := by
  intro n hn
  obtain ⟨e, he, hLabel⟩ := exists_of_mem_nodes_ofListing? h hn
  rw [hLabel]
  exact ⟨inside e he, rfl, rfl⟩

theorem Point.le_refl (p : Point) : p ≤ p :=
  .inr ⟨rfl, le_rfl⟩

theorem Point.le_next (p : Point) (byte : UInt8) : p ≤ p.next byte := by
  rw [Point.le_iff, Point.next]
  split
  · exact .inl (Nat.lt_succ_self _)
  · exact .inr ⟨rfl, Nat.le_succ _⟩

theorem getElem?_pointsFrom_zero (p : Point) (bytes : List UInt8) :
    (pointsFrom p bytes)[0]? = some p := by
  cases bytes <;> rfl

theorem pointsFrom_mono {bytes : List UInt8} {i j : Nat} (hij : i ≤ j) (hj : j ≤ bytes.length)
    (p : Point) :
    (pointsFrom p bytes)[i]?.getD {} ≤ (pointsFrom p bytes)[j]?.getD {} := by
  induction bytes generalizing i j p with
  | nil =>
    obtain rfl : j = 0 := Nat.le_zero.mp hj
    obtain rfl : i = 0 := Nat.le_zero.mp hij
    exact Point.le_refl _
  | cons byte bytes ih =>
    cases j with
    | zero =>
      obtain rfl : i = 0 := Nat.le_zero.mp hij
      exact Point.le_refl _
    | succ j =>
      have later := ih (Nat.zero_le j) (Nat.le_of_succ_le_succ hj) (p.next byte)
      cases i with
      | zero =>
        rw [getElem?_pointsFrom_zero] at later
        exact Point.le_trans (p.le_next byte) later
      | succ i => exact ih (Nat.le_of_succ_le_succ hij) (Nat.le_of_succ_le_succ hj) _

/-- **Later bytes stand at later points.** -/
theorem pointAt_mono {text : String} {i j : Nat} (hij : i ≤ j)
    (hj : j ≤ text.toUTF8.toList.length) :
    (FileBytes.ofText text).pointAt i ≤ (FileBytes.ofText text).pointAt j := by
  rw [FileBytes.pointAt, FileBytes.pointAt, FileBytes.ofText, Array.getD_eq_getD_getElem?,
    Array.getD_eq_getD_getElem?, List.getElem?_toArray, List.getElem?_toArray]
  exact pointsFrom_mono hij hj _

end Syntax

/-- **One span lies within another**: it starts no earlier and ends no later. -/
def Span.Within (s t : Span) : Prop :=
  (t.line < s.line ∨ t.line = s.line ∧ t.column ≤ s.column) ∧
    (s.endLine < t.endLine ∨ s.endLine = t.endLine ∧ s.endColumn ≤ t.endColumn)

instance (s t : Span) : Decidable (s.Within t) :=
  inferInstanceAs (Decidable ((t.line < s.line ∨ t.line = s.line ∧ t.column ≤ s.column) ∧
    (s.endLine < t.endLine ∨ s.endLine = t.endLine ∧ s.endColumn ≤ t.endColumn)))

/-- **The span of a part lies within that of the whole.** -/
theorem Syntax.Node.span_within {text : String} {root n m : Node} (nested : root.Nested)
    (points : root.PointsInto text) (hn : n ∈ root.nodes) (hm : m ∈ n.nodes) :
    m.span.Within n.span := by
  have part := mem_nodes_trans hm hn
  have inside := (nested.of_mem hn).within hm
  obtain ⟨n_last, n_start, n_stop⟩ := points n hn
  obtain ⟨m_last, m_start, m_stop⟩ := points m part
  have m_ordered : m.label.start ≤ m.label.stop := by
    rw [m_start, m_stop]
    exact pointAt_mono (nested m part).1 m_last
  have n_ordered : n.label.start ≤ n.label.stop := by
    rw [n_start, n_stop]
    exact pointAt_mono (nested n hn).1 n_last
  have start_le : n.label.start ≤ m.label.start := by
    rw [n_start, m_start]
    exact pointAt_mono inside.1 ((nested m part).1.trans m_last)
  have stop_le : m.label.stop ≤ n.label.stop := by
    rw [n_stop, m_stop]
    exact pointAt_mono inside.2 n_last
  rw [Point.le_iff] at m_ordered n_ordered start_le stop_le
  unfold Span.Within span Span.of
  dsimp only
  omega

/-! ### What bodies and tables hold -/

namespace Body

variable {b : Body}

theorem exists_of_mem_assertions {a : Assertion} (h : a ∈ b.assertions) :
    ∃ n ∈ b.nodes, a.span = n.span := by
  obtain ⟨l, hl, ha⟩ := List.mem_flatMap.mp h
  exact ⟨l.node, List.mem_map_of_mem hl, Rules.span_of_mem_assertionsAt ha⟩

theorem mem_of_mem_deadFrom {n : Node} {ns : List Node} :
    ∀ {exited : Bool}, n ∈ deadFrom exited ns → n ∈ ns := by
  induction ns with
  | nil => exact fun h => h
  | cons m ns ih =>
    intro exited h
    unfold deadFrom at h
    dsimp only at h
    split at h
    · rcases List.mem_cons.mp h with rfl | h
      · exact List.mem_cons_self
      · exact List.mem_cons_of_mem m (ih h)
    · exact List.mem_cons_of_mem m (ih h)

theorem exists_of_mem_unreachable {s : Span} (h : s ∈ b.unreachable) :
    ∃ block ∈ b.nodes, ∃ n ∈ block.nodes, s = n.span := by
  obtain ⟨n, hn, rfl⟩ := List.mem_map.mp h
  obtain ⟨block, hBlock, hDead⟩ := List.mem_filterMap.mp hn
  have statement := mem_of_mem_deadFrom (List.mem_of_mem_head? hDead)
  exact ⟨block, List.mem_of_mem_filter hBlock, n,
    Node.mem_nodes_of_mem_children n.mem_nodes_self (List.mem_of_mem_filter statement), rfl⟩

theorem node_mem_of_mem_literalsFrom {ns : List Node} {position : Nat} {found : List FoundLiteral}
    (h : literalsFrom position ns = .ok found) : ∀ f ∈ found, f.node ∈ ns := by
  induction ns generalizing position found with
  | nil =>
    obtain rfl : [] = found := Except.ok.inj h
    exact fun _ hf => absurd hf List.not_mem_nil
  | cons n ns ih =>
    rw [literalsFrom, bind_eq_ok] at h
    obtain ⟨literal, -, h⟩ := h
    rw [bind_eq_ok] at h
    obtain ⟨more, hMore, h⟩ := h
    obtain rfl := Except.ok.inj h
    intro f hf
    rcases List.mem_append.mp hf with hf | hf
    · obtain ⟨_, -, rfl⟩ := List.mem_map.mp hf
      exact List.mem_cons_self
    · exact List.mem_cons_of_mem n (ih hMore f hf)

theorem node_mem_of_literalCall? {roles : List ((Nat × Nat) × ArgsRole)} {n : Node}
    {call : LiteralCall} (h : literalCall? roles n = .ok (some call)) :
    ∀ f ∈ call.literals, f.node ∈ n.nodes := by
  unfold literalCall? at h
  split at h
  · cases h
  · split at h
    · cases h
    · next args hArgs =>
      rw [bind_eq_ok] at h
      obtain ⟨literals, hLiterals, h⟩ := h
      obtain rfl := Option.some.inj (Except.ok.inj h)
      intro f hf
      exact Node.mem_nodes_trans
        (mem_nodes_of_mem_operands (node_mem_of_mem_literalsFrom hLiterals f hf))
        (Node.mem_nodes_of_child? (Option.filter_eq_some_iff.mp hArgs).1)

end Body

/-- What a body passes to calls are parts of it. -/
theorem Body.exists_of_mem_literalCalls {b : Body} {calls : List LiteralCall}
    (h : b.literalCalls = .ok calls) {call : LiteralCall} (hCall : call ∈ calls)
    {f : FoundLiteral} (hf : f ∈ call.literals) : ∃ n ∈ b.nodes, f.node ∈ n.nodes := by
  rw [literalCalls, bind_eq_ok] at h
  obtain ⟨found, hFound, h⟩ := h
  obtain rfl := Except.ok.inj h
  obtain ⟨_, hMem, rfl⟩ := List.mem_filterMap.mp hCall
  obtain ⟨n, hn, hCall⟩ := exists_of_mem_mapM hFound hMem
  exact ⟨n, hn, node_mem_of_literalCall? hCall f hf⟩

/-- The literals of a table are parts of it, and carry the index of its test. -/
theorem Suite.of_mem_tableLiterals {index : Nat} {table : Node} {rows : List LiteralArg}
    (h : tableLiterals index table = .ok rows) {a : LiteralArg} (ha : a ∈ rows) :
    a.testIndex = index ∧ ∃ n ∈ table.nodes, a.span = n.span := by
  rw [tableLiterals, bind_eq_ok] at h
  obtain ⟨found, hFound, h⟩ := h
  obtain rfl := Except.ok.inj h
  obtain ⟨_, hMem, rfl⟩ := List.mem_filterMap.mp ha
  obtain ⟨l, hl, hLiteral⟩ := exists_of_mem_mapM hFound hMem
  unfold tableLiteral? at hLiteral
  split at hLiteral
  · cases hLiteral
  · obtain ⟨found, -, hSome⟩ := map_eq_ok.mp hLiteral
    obtain ⟨_, -, rfl⟩ := Option.map_eq_some_iff.mp hSome
    exact ⟨rfl, l.node, List.mem_map_of_mem hl, rfl⟩

/-! ### What tests hold -/

namespace PlacedBlock

variable {p : PlacedBlock}

/-- The callee of a block is a part of the call that opens it. -/
theorem calleeNode_mem_nodes (opened : Block.ofCall? p.call = some p.block) :
    p.block.calleeNode ∈ p.call.nodes := by
  have named {naming : Block.Naming} (h : Block.naming? p.call = some naming) :
      naming.calleeNode ∈ p.call.nodes := by
    unfold Block.naming? at h
    simp only [Option.bind_eq_bind, Option.bind_eq_some_iff] at h
    obtain ⟨callee, hCallee, h⟩ := h
    have callee_mem := Node.mem_nodes_of_child? hCallee
    split at h
    · simp only [Option.bind_eq_some_iff] at h
      obtain ⟨inner, hInner, path, -, h⟩ := h
      split at h
      · obtain rfl := Option.some.inj h
        exact Node.mem_nodes_trans (Node.mem_nodes_of_child? hInner) callee_mem
      · cases h
    · simp only [Option.bind_eq_some_iff] at h
      obtain ⟨path, -, h⟩ := h
      split at h
      · cases h
      · obtain rfl := Option.some.inj h
        exact callee_mem
  unfold Block.ofCall? at opened
  simp only [Option.bind_eq_bind, Option.bind_eq_some_iff] at opened
  obtain ⟨naming, hNaming, opening, -, opened⟩ := opened
  split at opened
  · unfold Block.hook? at opened
    split at opened
    · rw [← Option.some.inj opened]
      exact named hNaming
    · cases opened
  · unfold Block.titled? at opened
    split at opened
    · rw [← Option.some.inj opened]
      exact named hNaming
    · cases opened

/-- The body of a block is a part of the call that opens it. -/
theorem mem_nodes_of_mem_body (opened : Block.ofCall? p.call = some p.block) {body : Body}
    (hBody : p.block.callback.bind Body.of? = some body) {n : Node} (hn : n ∈ body.nodes) :
    n ∈ p.call.nodes := by
  obtain ⟨callback, hCallback, hBody⟩ := Option.bind_eq_some_iff.mp hBody
  obtain ⟨root, hRoot, rfl⟩ := Option.map_eq_some_iff.mp hBody
  have in_root : n ∈ root.nodes := by
    rw [← map_node_places root [callback]]
    exact hn
  exact Node.mem_nodes_trans (Node.mem_nodes_trans in_root (Node.mem_nodes_of_child? hRoot))
    ((mem_nodes_of_ofCall? opened).1 callback hCallback)

variable {index : Nat} {t : Suite.ReadTest}

/-- **The assertions of a test** stand in parts of its call. -/
theorem exists_of_mem_assertions (opened : Block.ofCall? p.call = some p.block)
    (h : p.read index = .ok t) {a : Assertion} (ha : a ∈ t.test.assertions) :
    ∃ n ∈ p.call.nodes, a.span = n.span := by
  obtain ⟨calls, test_eq⟩ := exists_testOf_of_read h
  rw [test_eq] at ha
  replace ha : a ∈ ((p.block.callback.bind Body.of?).map Body.assertions).getD [] := ha
  cases hBody : p.block.callback.bind Body.of? with
  | none =>
    rw [hBody] at ha
    cases ha
  | some body =>
    rw [hBody] at ha
    obtain ⟨n, hn, span_eq⟩ := Body.exists_of_mem_assertions ha
    exact ⟨n, mem_nodes_of_mem_body opened hBody hn, span_eq⟩

/-- **The dead statements of a test** are parts of its call. -/
theorem exists_of_mem_unreachable (opened : Block.ofCall? p.call = some p.block)
    (h : p.read index = .ok t) {s : Span} (hs : s ∈ t.test.unreachable) :
    ∃ n ∈ p.call.nodes, s = n.span := by
  obtain ⟨calls, test_eq⟩ := exists_testOf_of_read h
  rw [test_eq] at hs
  replace hs : s ∈ ((p.block.callback.bind Body.of?).map Body.unreachable).getD [] := hs
  cases hBody : p.block.callback.bind Body.of? with
  | none =>
    rw [hBody] at hs
    cases hs
  | some body =>
    rw [hBody] at hs
    obtain ⟨block, hBlock, n, hn, span_eq⟩ := Body.exists_of_mem_unreachable hs
    exact ⟨n, Node.mem_nodes_trans hn (mem_nodes_of_mem_body opened hBody hBlock), span_eq⟩

/-- **The literals of a test** carry its index, and are parts of its call. -/
theorem of_mem_literals (opened : Block.ofCall? p.call = some p.block)
    (h : p.read index = .ok t) {a : LiteralArg} (ha : a ∈ t.literals) :
    a.testIndex = index ∧ ∃ n ∈ p.call.nodes, a.span = n.span := by
  rw [read, Suite.readTest, bind_eq_ok] at h
  obtain ⟨calls, hCalls, h⟩ := h
  rw [bind_eq_ok] at h
  obtain ⟨rows, hRows, h⟩ := h
  obtain rfl := Except.ok.inj h
  rcases List.mem_append.mp ha with ha | ha
  · obtain ⟨call, hCall, ha⟩ := List.mem_flatMap.mp ha
    obtain ⟨f, hf, rfl⟩ := List.mem_map.mp ha
    refine ⟨rfl, f.node, ?_, rfl⟩
    cases hBody : p.block.callback.bind Body.of? with
    | none =>
      rw [hBody] at hCalls
      obtain rfl : [] = calls := Except.ok.inj hCalls
      cases hCall
    | some body =>
      rw [hBody] at hCalls
      obtain ⟨n, hn, part⟩ := Body.exists_of_mem_literalCalls hCalls hCall hf
      exact Node.mem_nodes_trans part (mem_nodes_of_mem_body opened hBody hn)
  · cases hTable : p.block.table with
    | none =>
      rw [hTable] at hRows
      obtain rfl : [] = rows := Except.ok.inj hRows
      cases ha
    | some table =>
      rw [hTable] at hRows
      obtain ⟨index_eq, n, hn, span_eq⟩ := Suite.of_mem_tableLiterals hRows ha
      exact ⟨index_eq, n,
        Node.mem_nodes_trans hn ((mem_nodes_of_ofCall? opened).2 table hTable), span_eq⟩

end PlacedBlock

/-! ### Indices -/

section

variable {root : Node} {tests : List Suite.ReadTest}

/-- **Each test is read with its own index**, off the block at that place. -/
theorem exists_read_at {blocks : List PlacedBlock} (h : PlacedBlock.readFrom 0 blocks = .ok tests)
    {k : Nat} {t : Suite.ReadTest} (ht : tests[k]? = some t) :
    ∃ p, blocks[k]? = some p ∧ p.read k = .ok t := by
  obtain ⟨length_eq, read⟩ := List.forall₂_iff_get.mp (forall₂_of_mapM h)
  obtain ⟨lt, rfl⟩ := List.getElem?_eq_some_iff.mp ht
  have hk : k < blocks.length := by
    rw [List.length_zipIdx] at length_eq
    exact length_eq ▸ lt
  refine ⟨blocks[k], List.getElem?_eq_getElem hk, ?_⟩
  have := read k (by rwa [List.length_zipIdx]) lt
  simpa using this

theorem ofCall?_of_mem_tests {p : PlacedBlock} (h : p ∈ PlacedBlock.tests (blocksOf root)) :
    Block.ofCall? p.call = some p.block ∧ p.call ∈ root.nodes := by
  obtain ⟨hMem, -⟩ := List.mem_filter.mp h
  obtain ⟨_, -, hOpen, -⟩ := mem_blocksOf_iff.mp hMem
  obtain ⟨n, hn, hp⟩ := List.mem_flatMap.mp hMem
  exact ⟨ofCall?_of_block? hOpen,
    Node.mem_nodes_of_mem_children (mem_nodes_of_mem_blocksIn hp) hn⟩

variable (hTests : PlacedBlock.readFrom 0 (PlacedBlock.tests (blocksOf root)) = .ok tests)

include hTests

/-- **Literals come in the order of the tests** that they name. -/
theorem indices_of_literals :
    (∀ a ∈ tests.flatMap (·.literals), 0 ≤ a.testIndex ∧ a.testIndex < (tests.length : Int)) ∧
      (tests.flatMap (·.literals)).Pairwise fun a b => a.testIndex ≤ b.testIndex := by
  have index_eq {k : Nat} {t : Suite.ReadTest} (ht : tests[k]? = some t) :
      ∀ a ∈ t.literals, a.testIndex = (k : Int) := by
    intro a ha
    obtain ⟨p, hp, hRead⟩ := exists_read_at hTests ht
    exact (PlacedBlock.of_mem_literals (ofCall?_of_mem_tests (List.mem_of_getElem? hp)).1 hRead
      ha).1
  constructor
  · intro a ha
    obtain ⟨t, ht, ha⟩ := List.mem_flatMap.mp ha
    obtain ⟨k, hk⟩ := List.mem_iff_getElem?.mp ht
    obtain ⟨lt, -⟩ := List.getElem?_eq_some_iff.mp hk
    rw [index_eq hk a ha]
    exact ⟨Int.natCast_nonneg k, Int.ofNat_lt.mpr lt⟩
  · rw [List.pairwise_flatMap]
    constructor
    · intro t ht
      obtain ⟨k, hk⟩ := List.mem_iff_getElem?.mp ht
      refine List.pairwise_of_forall_mem_list fun a ha b hb => ?_
      rw [index_eq hk a ha, index_eq hk b hb]
    · rw [List.pairwise_iff_getElem]
      intro i j hi hj hij a ha b hb
      rw [index_eq (List.getElem?_eq_getElem hi) a ha, index_eq (List.getElem?_eq_getElem hj) b hb]
      exact Int.ofNat_le.mpr hij.le

/-- **What a test holds stands within it**: its callee, and what was read off its body. -/
theorem within_test {text : String} (nested : root.Nested) (points : root.PointsInto text) {k : Nat}
    {t : Suite.ReadTest} (ht : tests[k]? = some t) :
    (∀ a ∈ t.test.assertions, a.span.Within t.test.span) ∧
      (∀ s ∈ t.test.unreachable, s.Within t.test.span) ∧
      ∀ a ∈ tests.flatMap (·.literals), a.testIndex = (k : Int) → a.span.Within t.test.span := by
  obtain ⟨p, hp, hRead⟩ := exists_read_at hTests ht
  obtain ⟨opened, hCall⟩ := ofCall?_of_mem_tests (List.mem_of_getElem? hp)
  rw [(PlacedBlock.gives_of_read hRead).span_eq]
  refine ⟨fun a ha => ?_, fun s hs => ?_, fun a ha index_eq => ?_⟩
  · obtain ⟨n, hn, span_eq⟩ := PlacedBlock.exists_of_mem_assertions opened hRead ha
    rw [span_eq]
    exact Node.span_within nested points hCall hn
  · obtain ⟨n, hn, span_eq⟩ := PlacedBlock.exists_of_mem_unreachable opened hRead hs
    rw [span_eq]
    exact Node.span_within nested points hCall hn
  · obtain ⟨u, hu, ha⟩ := List.mem_flatMap.mp ha
    obtain ⟨j, hj⟩ := List.mem_iff_getElem?.mp hu
    obtain ⟨q, hq, hReadU⟩ := exists_read_at hTests hj
    obtain ⟨openedU, -⟩ := ofCall?_of_mem_tests (List.mem_of_getElem? hq)
    obtain ⟨own, n, hn, span_eq⟩ := PlacedBlock.of_mem_literals openedU hReadU ha
    obtain rfl : j = k := Int.ofNat.inj (own.symm.trans index_eq)
    obtain rfl : q = p := Option.some.inj (hq.symm.trans hp)
    rw [span_eq]
    exact Node.span_within nested points hCall hn

end

theorem scope_of_mock? {scope : MockScope} {testIndex : Option Nat} {call : Node} {m : Mock}
    (h : Body.mock? scope testIndex call = some m) : m.scope = scope := by
  simp only [Body.mock?, Option.bind_eq_bind, Option.bind_eq_some_iff] at h
  obtain ⟨path, -, kind, -, hMock⟩ := h
  rw [← Option.some.inj hMock]

theorem scope_of_mem_callbackMocks {b : Block} {scope : MockScope} {testIndex : Option Nat}
    {m : Mock} (h : m ∈ Suite.callbackMocks b scope testIndex) : m.scope = scope := by
  unfold Suite.callbackMocks at h
  cases hBody : b.callback.bind Body.of? with
  | none =>
    rw [hBody] at h
    cases h
  | some body =>
    rw [hBody] at h
    obtain ⟨call, -, hCall⟩ := List.mem_filterMap.mp h
    exact scope_of_mock? hCall

/-- **A mock names a test if it is set up in one**, and that one. -/
theorem scope_of_mem_mocksOf {index : Nat} {item : Item} {m : Mock}
    (h : m ∈ Suite.mocksOf (index, item)) :
    m.scope = .test ∧ Suite.isTest item = true ∧ m.testIndex = some index ∨
      (m.scope = .module ∨ m.scope = .hook) ∧ m.testIndex = none := by
  cases item with
  | call n =>
    have made := Option.mem_toList.mp h
    exact .inr ⟨.inl (scope_of_mock? made), testIndex_of_mock? made⟩
  | declaration n describes => cases h
  | block b call place =>
    unfold Suite.mocksOf at h
    dsimp only at h
    split at h
    · cases h
    · next hKind =>
      refine .inl ⟨scope_of_mem_callbackMocks h, ?_, testIndex_of_mem_callbackMocks h⟩
      rw [Suite.isTest, hKind]
      rfl
    · exact .inr ⟨.inr (scope_of_mem_callbackMocks h), testIndex_of_mem_callbackMocks h⟩

/-- **The tests that change a variable are named in order.** -/
theorem indices_of_mutatedIn (tests : List Suite.ReadTest) (b : Binding) :
    (Suite.mutatedIn tests b).Pairwise (· < ·) ∧
      ∀ k ∈ Suite.mutatedIn tests b, k < tests.length := by
  have part : (Suite.mutatedIn tests b).Sublist (tests.zipIdx.map (·.2)) :=
    List.filter_sublist.map _
  rw [List.zipIdx_map_snd] at part
  refine ⟨List.Pairwise.sublist part (List.pairwise_lt_range' 1), fun k hk => ?_⟩
  have := List.mem_range'_1.mp (part.subset hk)
  omega

/-! ### Markers -/

/-- **A marker belongs to a test**: it has its title, callee and focus, and where it says that the
test is skipped, the test is. -/
structure MarksTest (m : Marker) (t : TestCase) : Prop where
  name_eq : m.name = t.name
  callee_eq : m.callee = t.marker
  focused_eq : m.focused = t.focused
  skipped : m.skipped = true → t.skipped = true

theorem marks_of_read {p : PlacedBlock} {index : Nat} {t : Suite.ReadTest}
    (h : p.read index = .ok t) : MarksTest (Suite.markerOf .test p.block) t.test := by
  obtain ⟨calls, test_eq⟩ := PlacedBlock.exists_testOf_of_read h
  rw [test_eq]
  refine ⟨rfl, rfl, rfl, fun skipped => ?_⟩
  have hSkipped : p.block.skipped = true := skipped
  rw [Suite.testOf, hSkipped, Bool.or_true, Bool.true_or]

/-- **The markers of tests** are those of the test calls, in their order. -/
theorem filter_markers (blocks : List PlacedBlock) :
    (blocks.filterMap fun p => Suite.marker? p.item).filter (·.block == .test) =
      (PlacedBlock.tests blocks).map fun p => Suite.markerOf .test p.block := by
  induction blocks with
  | nil => rfl
  | cons p blocks ih =>
    rw [PlacedBlock.tests, List.filter_cons, List.filterMap_cons, PlacedBlock.item, Suite.marker?]
    cases p.block.kind with
    | describe => exact ih
    | test => exact congrArg (_ :: ·) ih
    | hook kind => exact ih

/-! ### Suites -/

/-- **The indices of a suite are consistent.** Whatever the tree, the markers of tests belong to the
tests one by one; literals name tests of the suite, and come in their order; a mock names one if it
is set up in a test, and none otherwise; and the tests that change a variable are named in order.
Where the bytes of the tree are nested, and its points are places of a text, the assertions, the
literals and the dead statements of a test, and its marker, stand within it. -/
theorem suite_indices_consistent {path : Text} {text : String} {framework : Option Framework}
    {tree : Tree} {s : Suite} (h : Suite.ofTree path text framework tree = .ok s) :
    List.Forall₂ MarksTest (s.markers.filter (·.block == .test)) s.tests ∧
      ((∀ a ∈ s.literals, 0 ≤ a.testIndex ∧ a.testIndex < (s.tests.length : Int)) ∧
        s.literals.Pairwise fun a b => a.testIndex ≤ b.testIndex) ∧
      (∀ m ∈ s.mocks,
        m.scope = .test ∧ (∃ k < s.tests.length, m.testIndex = some (k : Int)) ∨
          (m.scope = .module ∨ m.scope = .hook) ∧ m.testIndex = none) ∧
      (∀ b ∈ s.bindings, b.mutatedIn.Pairwise (· < ·) ∧ ∀ k ∈ b.mutatedIn, k < s.tests.length) ∧
      (tree.root.Nested → tree.root.PointsInto text →
        List.Forall₂ (fun m t => m.span.Within t.span) (s.markers.filter (·.block == .test))
            s.tests ∧
          ∀ (k : Nat) (t : TestCase), s.tests[k]? = some t →
            (∀ a ∈ t.assertions, a.span.Within t.span) ∧
            (∀ u ∈ t.unreachable, u.Within t.span) ∧
            ∀ a ∈ s.literals, a.testIndex = (k : Int) → a.span.Within t.span) := by
  rw [Suite.ofTree, bind_eq_ok] at h
  obtain ⟨outlined, hOutline, h⟩ := h
  obtain rfl := Except.ok.inj h
  rw [Suite.ofOutline, bind_eq_ok] at hOutline
  obtain ⟨tests, hNumbered, hOutline⟩ := hOutline
  obtain rfl := Except.ok.inj hOutline
  have hTests := hNumbered
  rw [readTests_eq_readFrom, placed_outline] at hTests
  have markers_eq : ((outline tree.root).filterMap Suite.marker?).filter (·.block == .test) =
      (PlacedBlock.tests (blocksOf tree.root)).map fun p => Suite.markerOf .test p.block := by
    rw [filterMap_marker?, placed_outline, filter_markers]
  dsimp only
  rw [markers_eq, List.length_map, List.forall₂_map_left_iff, List.forall₂_map_right_iff]
  refine ⟨(forall₂_read hTests).imp fun p t read => ?_, indices_of_literals hTests,
    fun m hm => ?_, fun b hb => ?_, fun nested points => ⟨?_, ?_⟩⟩
  · obtain ⟨_, hRead⟩ := read
    exact marks_of_read hRead
  · obtain ⟨⟨index, item⟩, hItem, hm⟩ := List.mem_flatMap.mp hm
    rcases scope_of_mem_mocksOf hm with ⟨hScope, hTest, index_eq⟩ | apart
    · have below := lt_of_mem_numberedFrom hNumbered hItem hTest
      rw [Nat.zero_add] at below
      exact .inl ⟨hScope, index, below, index_eq⟩
    · exact .inr apart
  · obtain ⟨found, -, rfl⟩ := List.mem_map.mp hb
    exact indices_of_mutatedIn tests found
  · rw [List.forall₂_map_left_iff, List.forall₂_map_right_iff]
    refine ((List.forall₂_and_left _ _).mpr
      ⟨fun p hp => ofCall?_of_mem_tests hp, forall₂_read hTests⟩).imp ?_
    rintro p t ⟨⟨opened, hCall⟩, _, hRead⟩
    rw [(PlacedBlock.gives_of_read hRead).span_eq]
    exact Node.span_within nested points hCall (PlacedBlock.calleeNode_mem_nodes opened)
  · intro k t ht
    rw [List.getElem?_map] at ht
    obtain ⟨read, hRead, rfl⟩ := Option.map_eq_some_iff.mp ht
    exact within_test hTests nested points hRead

/-- A variable, and a test that adds to it. -/
def addingText : String :=
  "let n;\nit('a', () => \x7b\n  n += f(3);\n\x7d);"

/-- The nodes of that text. -/
def addingListing : List Entry :=
  [{ kind := "program", first := 0, last := 39, childCount := 2 },
    { kind := "lexical_declaration", first := 0, last := 6, childCount := 2 },
    { kind := "let", named := false, first := 0, last := 3 },
    { kind := "variable_declarator", first := 4, last := 5, childCount := 1 },
    { kind := "identifier", field := "name", first := 4, last := 5 },
    { kind := "expression_statement", first := 7, last := 39, childCount := 1 },
    { kind := "call_expression", first := 7, last := 38, childCount := 2 },
    { kind := "identifier", field := "function", first := 7, last := 9 },
    { kind := "arguments", field := "arguments", first := 9, last := 38, childCount := 2 },
    { kind := "string", first := 10, last := 13 },
    { kind := "arrow_function", first := 15, last := 37, childCount := 2 },
    { kind := "formal_parameters", field := "parameters", first := 15, last := 17 },
    { kind := "statement_block", field := "body", first := 21, last := 37, childCount := 1 },
    { kind := "expression_statement", first := 25, last := 35, childCount := 1 },
    { kind := "augmented_assignment_expression", first := 25, last := 34, childCount := 2 },
    { kind := "identifier", field := "left", first := 25, last := 26 },
    { kind := "call_expression", field := "right", first := 30, last := 34, childCount := 2 },
    { kind := "identifier", field := "function", first := 30, last := 31 },
    { kind := "arguments", field := "arguments", first := 31, last := 34, childCount := 1 },
    { kind := "number", first := 32, last := 33 }]

/-- The tree of that text. -/
def addingTree : Tree :=
  { root := (Node.ofListing? (FileBytes.ofText addingText) addingListing).getD default }

theorem pointsInto_addingTree : addingTree.root.PointsInto addingText := by
  have listed : (Node.ofListing? (FileBytes.ofText addingText) addingListing).isSome = true := by
    decide +kernel
  obtain ⟨root, hRoot⟩ := Option.isSome_iff_exists.mp listed
  rw [addingTree, hRoot]
  refine pointsInto_of_ofListing? hRoot ?_
  rw [toList_eq]
  decide

/-- The test that adds is read with its marker and its literal; both stand within it, and it is the
one that changes the variable. -/
theorem suite_indices_consistent_adding :
    ∃ s m t a, Suite.ofTree "sum.test.ts" addingText (some .vitest) addingTree = .ok s ∧
      s.markers.filter (·.block == .test) = [m] ∧ s.tests = [t] ∧ s.literals = [a] ∧
      s.bindings.map (·.mutatedIn) = [[0]] ∧
      MarksTest m t ∧ m.span.Within t.span ∧ a.testIndex = 0 ∧ a.span.Within t.span := by
  have nested : addingTree.root.Nested := by decide +kernel
  have counts : ((Suite.ofTree "sum.test.ts" addingText (some .vitest) addingTree).toOption.map
      fun s => ((s.markers.filter (·.block == .test)).length, s.tests.length)) = some (1, 1) := by
    decide +kernel
  have indices : ((Suite.ofTree "sum.test.ts" addingText (some .vitest) addingTree).toOption.map
      fun s => (s.literals.map (·.testIndex), s.bindings.map (·.mutatedIn))) =
        some ([0], [[0]]) := by
    decide +kernel
  cases hRead : Suite.ofTree "sum.test.ts" addingText (some .vitest) addingTree with
  | error e =>
    rw [hRead] at counts
    cases counts
  | ok s =>
    rw [hRead] at counts indices
    obtain ⟨hMarkers, hTests⟩ := Prod.mk.inj (Option.some.inj counts)
    obtain ⟨hLiterals, hBindings⟩ := Prod.mk.inj (Option.some.inj indices)
    obtain ⟨m, hMarkers⟩ := List.length_eq_one_iff.mp hMarkers
    obtain ⟨t, hTests⟩ := List.length_eq_one_iff.mp hTests
    obtain ⟨a, hLiterals, index_eq⟩ := List.map_eq_singleton_iff.mp hLiterals
    obtain ⟨hMarks, -, -, -, inside⟩ := suite_indices_consistent hRead
    obtain ⟨hMarker, hParts⟩ := inside nested pointsInto_addingTree
    rw [hMarkers, hTests] at hMarks hMarker
    have ht : s.tests[0]? = some t := by rw [hTests]; rfl
    have ha : a ∈ s.literals := by
      rw [hLiterals]
      exact List.mem_singleton_self a
    exact ⟨s, m, t, a, rfl, hMarkers, hTests, hLiterals, hBindings,
      (List.forall₂_cons.mp hMarks).1, (List.forall₂_cons.mp hMarker).1, index_eq,
      (hParts 0 t ht).2.2 a ha index_eq⟩

end SuiteAudit
