import SuiteAudit.Proofs.DocumentOrder
import SuiteAudit.Proofs.FileFindings

/-!
# Tests that share a line

Attribution compares lines and no columns. In a tree whose nodes stand in order the tests of a suite
follow one another (`pairwise_precedes_of_read`), so a place lies in one test at most; but its line
may belong to several, and of those the last one has the issue. So an issue in a test is charged to
that test exactly if no later test opens on the line of the issue, and otherwise to the last one
that does (`charged_by_line`).
-/

namespace SuiteAudit

open Syntax

/-! ### Nodes in order -/

namespace Syntax

/-- One place of a file comes no later than another. -/
instance : LE Point :=
  ⟨fun p q => p.row < q.row ∨ p.row = q.row ∧ p.column ≤ q.column⟩

instance (p q : Point) : Decidable (p ≤ q) :=
  inferInstanceAs (Decidable (p.row < q.row ∨ p.row = q.row ∧ p.column ≤ q.column))

theorem Point.le_iff {p q : Point} : p ≤ q ↔ p.row < q.row ∨ p.row = q.row ∧ p.column ≤ q.column :=
  Iff.rfl

theorem Point.le_trans {p q r : Point} (hpq : p ≤ q) (hqr : q ≤ r) : p ≤ r := by
  rw [Point.le_iff] at *
  omega

/-- One node ends before another starts. -/
def Node.EndsBefore (a b : Node) : Prop :=
  a.label.stop ≤ b.label.start

instance : DecidableRel Node.EndsBefore :=
  fun a b => inferInstanceAs (Decidable (a.label.stop ≤ b.label.start))

/-- **The nodes of a tree stand in order**: none ends before it starts, and the children of each lie
within it, one after the other. -/
def Node.InOrder (root : Node) : Prop :=
  ∀ n ∈ root.nodes, n.label.start ≤ n.label.stop ∧
    (∀ c ∈ n.children, n.label.start ≤ c.label.start ∧ c.label.stop ≤ n.label.stop) ∧
    n.children.Pairwise Node.EndsBefore

instance (root : Node) : Decidable root.InOrder :=
  inferInstanceAs (Decidable (∀ n ∈ root.nodes, n.label.start ≤ n.label.stop ∧
    (∀ c ∈ n.children, n.label.start ≤ c.label.start ∧ c.label.stop ≤ n.label.stop) ∧
    n.children.Pairwise Node.EndsBefore))

theorem Node.InOrder.of_mem {n root : Node} (h : root.InOrder) (hn : n ∈ root.nodes) : n.InOrder :=
  fun m hm => h m (mem_nodes_trans hm hn)

/-- **What is below a node lies within it.** -/
theorem Node.InOrder.within {m : Node} : ∀ {n : Node}, n.InOrder → m ∈ n.nodes →
    n.label.start ≤ m.label.start ∧ m.label.stop ≤ n.label.stop
  | n, h, hm => by
    rw [nodes_eq_cons] at hm
    rcases List.mem_cons.mp hm with rfl | hm
    · exact ⟨.inr ⟨rfl, le_rfl⟩, .inr ⟨rfl, le_rfl⟩⟩
    · obtain ⟨c, hc, hm⟩ := List.mem_flatMap.mp hm
      have := Node.size_lt_of_mem hc
      have child := h.of_mem (mem_nodes_of_mem_children c.mem_nodes_self hc)
      have inside := (h n n.mem_nodes_self).2.1 c hc
      have below := child.within hm
      exact ⟨Point.le_trans inside.1 below.1, Point.le_trans below.2 inside.2⟩
termination_by n => n.size

end Syntax

/-! ### Blocks in order -/

/-- A block stands below the node at which it is found. -/
theorem mem_nodes_of_mem_blocksIn {p : PlacedBlock} :
    ∀ {n : Node} {describes : List Text} {skipped : Bool},
      p ∈ blocksIn describes skipped n → p.call ∈ n.nodes
  | n, describes, skipped, hp => by
    cases hOpen : Outline.block? n with
    | none =>
      rw [blocksIn_of_none hOpen] at hp
      obtain ⟨m, hm, hp⟩ := List.mem_flatMap.mp hp
      have := Node.size_lt_of_mem hm
      exact Node.mem_nodes_of_mem_children (mem_nodes_of_mem_blocksIn hp) hm
    | some b =>
      rw [blocksIn_of_some hOpen] at hp
      rcases List.mem_cons.mp hp with rfl | hp
      · exact n.mem_nodes_self
      · obtain ⟨m, hm, hp⟩ := List.mem_flatMap.mp hp
        obtain ⟨hKind, body, hBody, hStatement⟩ := mem_below_iff.mp hm
        have := size_lt_of_mem_statements hOpen hKind hBody hStatement
        exact Node.mem_nodes_trans (mem_nodes_of_mem_blocksIn hp)
          (mem_nodes_of_mem_below (ofCall?_of_block? hOpen) hm)
termination_by n => n.size

/-- The tests among some blocks follow one another. -/
def PlacedBlock.Sequenced (blocks : List PlacedBlock) : Prop :=
  (tests blocks).Pairwise fun p q => p.call.EndsBefore q.call

/-- Nodes that follow one another hold tests that do. -/
theorem sequenced_flatMap {describes : List Text} {skipped : Bool} {ns : List Node}
    (inOrder : ∀ n ∈ ns, n.InOrder) (apart : ns.Pairwise Node.EndsBefore)
    (each : ∀ n ∈ ns, PlacedBlock.Sequenced (blocksIn describes skipped n)) :
    PlacedBlock.Sequenced (ns.flatMap (blocksIn describes skipped)) := by
  rw [PlacedBlock.Sequenced, PlacedBlock.tests, List.filter_flatMap, List.pairwise_flatMap]
  refine ⟨each, apart.imp_of_mem fun {a b} ha hb hab p hp q hq => ?_⟩
  have p_within := (inOrder a ha).within (mem_nodes_of_mem_blocksIn (List.mem_of_mem_filter hp))
  have q_within := (inOrder b hb).within (mem_nodes_of_mem_blocksIn (List.mem_of_mem_filter hq))
  exact Point.le_trans p_within.2 (Point.le_trans hab q_within.1)

/-- What is looked at below a block stands in order. -/
theorem pairwise_below {n : Node} {b : Block} (h : Block.ofCall? n = some b) (hn : n.InOrder) :
    (Outline.below b).Pairwise Node.EndsBefore := by
  unfold Outline.below
  split
  · next body hKind hBody =>
    unfold Outline.statements
    split
    · obtain ⟨callback, hCallback, hBody⟩ := Option.bind_eq_some_iff.mp hBody
      have body_mem : body ∈ n.nodes :=
        Node.mem_nodes_trans (Node.mem_nodes_of_child? hBody)
          ((mem_nodes_of_ofCall? h).1 _ hCallback)
      exact (hn body body_mem).2.2.filter _
    · exact List.pairwise_singleton _ _
  · exact List.Pairwise.nil

/-- **The tests in a tree follow one another.** -/
theorem sequenced_blocksIn : ∀ {n : Node} {describes : List Text} {skipped : Bool}, n.InOrder →
    PlacedBlock.Sequenced (blocksIn describes skipped n)
  | n, describes, skipped, h => by
    cases hOpen : Outline.block? n with
    | none =>
      rw [blocksIn_of_none hOpen]
      refine sequenced_flatMap (fun m hm => ?_) (h n n.mem_nodes_self).2.2 fun m hm => ?_
      · exact h.of_mem (Node.mem_nodes_of_mem_children m.mem_nodes_self hm)
      · have := Node.size_lt_of_mem hm
        exact sequenced_blocksIn (h.of_mem (Node.mem_nodes_of_mem_children m.mem_nodes_self hm))
    | some b =>
      have opened := ofCall?_of_block? hOpen
      have inside (m : Node) (hm : m ∈ Outline.below b) : m.InOrder :=
        h.of_mem (mem_nodes_of_mem_below opened hm)
      have rest : PlacedBlock.Sequenced ((Outline.below b).flatMap
          (blocksIn (describes ++ [b.title]) (skipped || b.skipped))) := by
        refine sequenced_flatMap inside (pairwise_below opened h) fun m hm => ?_
        obtain ⟨hKind, body, hBody, hStatement⟩ := mem_below_iff.mp hm
        have := size_lt_of_mem_statements hOpen hKind hBody hStatement
        exact sequenced_blocksIn (inside m hm)
      rw [blocksIn_of_some hOpen, PlacedBlock.Sequenced, PlacedBlock.tests, List.filter_cons]
      split
      -- Nothing is looked at below a test, so it is the only one here.
      · next hTest =>
        have nothing_below : Outline.below b = [] :=
          below_eq_nil fun body hKind hBody => by simp [hKind] at hTest
        rw [nothing_below]
        exact List.pairwise_singleton _ _
      · exact rest
termination_by n => n.size

/-! ### Spans in order -/

namespace Span

/-- **A place lies in a span**: not before its start, and before its end. -/
def Holds (s : Span) (line column : Int) : Prop :=
  (s.line < line ∨ s.line = line ∧ s.column ≤ column) ∧
    (line < s.endLine ∨ line = s.endLine ∧ column < s.endColumn)

instance (s : Span) (line column : Int) : Decidable (s.Holds line column) :=
  inferInstanceAs (Decidable ((s.line < line ∨ s.line = line ∧ s.column ≤ column) ∧
    (line < s.endLine ∨ line = s.endLine ∧ column < s.endColumn)))

/-- One span ends before another starts. -/
def Precedes (s t : Span) : Prop :=
  s.endLine < t.line ∨ s.endLine = t.line ∧ s.endColumn ≤ t.column

theorem Holds.containsLine {s : Span} {line column : Int} (h : s.Holds line column) :
    s.containsLine line = true := by
  rw [mem_containsLine]
  unfold Holds at h
  omega

/-- A place in a span lies in no later one. -/
theorem Precedes.not_holds {s t : Span} (h : s.Precedes t) {line column : Int}
    (hs : s.Holds line column) : ¬ t.Holds line column := by
  unfold Precedes at h
  unfold Holds at *
  omega

/-- The line of a place in a span belongs to a later span only if that one opens there. -/
theorem Precedes.containsLine_iff {s t : Span} (h : s.Precedes t) {line column : Int}
    (hs : s.Holds line column) : t.containsLine line = true ↔ t.line = line := by
  have := t.line_le_endLine
  rw [mem_containsLine]
  unfold Precedes at h
  unfold Holds at hs
  omega

/-- A later span does not open above an earlier one. -/
theorem Precedes.line_le {s t : Span} (h : s.Precedes t) : s.line ≤ t.line := by
  have := s.line_le_endLine
  unfold Precedes at h
  omega

end Span

/-- The spans of nodes in order are in order. -/
theorem Syntax.Node.EndsBefore.precedes {a b : Node} (h : a.EndsBefore b)
    (ha : a.label.start ≤ a.label.stop) : a.span.Precedes b.span := by
  rw [Node.EndsBefore, Point.le_iff] at h
  rw [Point.le_iff] at ha
  unfold Span.Precedes Node.span Span.of
  dsimp only
  omega

/-- **A parser whose trees stand in order.** -/
def Syntax.Parser.InOrder (parse : Parser) : Prop :=
  ∀ grammar text, (parse grammar text).root.InOrder

/-- **The tests of a suite follow one another.** -/
theorem pairwise_precedes_of_read {parse : Parser} (inOrder : parse.InOrder) {path : Text}
    {content : Content} {framework : Option Framework} {s : Suite}
    (h : Suite.read parse path content framework = .ok s) :
    s.tests.Pairwise fun t u => t.span.Precedes u.span := by
  obtain ⟨grammar, text, outlined, -, -, hOutline, hs⟩ := exists_ofOutline_of_read h
  have root_inOrder := inOrder grammar text
  generalize (parse grammar text).root = root at hOutline root_inOrder
  have tests_eq := readTests_eq_readFrom (outline root) 0
  rw [placed_outline] at tests_eq
  rw [Suite.ofOutline, tests_eq, bind_eq_ok] at hOutline
  obtain ⟨tests, hTests, hOutline⟩ := hOutline
  obtain rfl := Except.ok.inj hOutline
  have spans_eq : (PlacedBlock.tests (blocksOf root)).map (·.call.span) =
      s.tests.map (·.span) := by
    rw [hs, ← List.forall₂_eq_eq_eq, List.forall₂_map_left_iff, List.forall₂_map_right_iff]
    exact (forall₂_gives hTests).imp fun _ _ gives => gives.span_eq.symm
  have child (m : Node) (hm : m ∈ root.children) : m.InOrder :=
    root_inOrder.of_mem (Node.mem_nodes_of_mem_children m.mem_nodes_self hm)
  have sequenced : PlacedBlock.Sequenced (blocksOf root) :=
    sequenced_flatMap child (root_inOrder root root.mem_nodes_self).2.2
      fun m hm => sequenced_blocksIn (child m hm)
  rw [← List.pairwise_map (R := Span.Precedes), ← spans_eq, List.pairwise_map]
  refine sequenced.imp_of_mem fun {p q} hp _ hpq => hpq.precedes ?_
  obtain ⟨m, hm, hp⟩ := List.mem_flatMap.mp (List.mem_of_mem_filter hp)
  exact (child m hm _ (mem_nodes_of_mem_blocksIn hp)).1

/-! ### Charges -/

section

variable {tests : List TestCase} (apart : tests.Pairwise fun t u => t.span.Precedes u.span)
  {line column : Int} {k : Nat} {t : TestCase} (hTest : tests[k]? = some t)
  (inside : t.span.Holds line column)

include apart

theorem precedes_of_lt {i j : Nat} {u v : TestCase} (hu : tests[i]? = some u)
    (hv : tests[j]? = some v) (hij : i < j) : u.span.Precedes v.span := by
  obtain ⟨hi, rfl⟩ := List.getElem?_eq_some_iff.mp hu
  obtain ⟨hj, rfl⟩ := List.getElem?_eq_some_iff.mp hv
  exact List.pairwise_iff_getElem.mp apart i j hi hj hij

include hTest inside

/-- **A place lies in one test at most.** -/
theorem eq_of_holds {j : Nat} {u : TestCase} (hu : tests[j]? = some u)
    (also : u.span.Holds line column) : j = k := by
  rcases Nat.lt_trichotomy j k with h | h | h
  · exact absurd inside ((precedes_of_lt apart hu hTest h).not_holds also)
  · exact h
  · exact absurd also ((precedes_of_lt apart hTest hu h).not_holds inside)

variable {m : Nat} {u : TestCase} (innermost : IsInnermost tests line m u)

include innermost

/-- The innermost test at the line of a place is the test of the place or opens on its line behind
it. -/
theorem IsInnermost.own_or_opens : m = k ∨ k < m ∧ u.span.line = line := by
  obtain ⟨hu, contains, first⟩ := innermost
  rcases Nat.lt_trichotomy m k with h | h | h
  -- An earlier test starts no later, so the test of the place would come before it.
  · have := (precedes_of_lt apart hu hTest h).line_le
    have := first k t hTest inside.containsLine
    omega
  · exact .inl h
  · exact .inr ⟨h, ((precedes_of_lt apart hTest hu h).containsLine_iff inside).mp contains⟩

omit hTest inside

/-- No test behind the innermost one at a line opens on it. -/
theorem IsInnermost.line_ne {j : Nat} {v : TestCase} (hj : m < j) (hv : tests[j]? = some v) :
    v.span.line ≠ line := by
  rintro rfl
  obtain ⟨hu, -, first⟩ := innermost
  have contains : v.span.containsLine v.span.line = true :=
    Span.mem_containsLine.mpr ⟨le_rfl, v.span.line_le_endLine⟩
  have := first j v hv contains
  have := (precedes_of_lt apart hu hv hj).line_le
  omega

end

/-- **An issue is charged by its line.** The tests of a suite follow one another, so the place of an
issue lies in one of them at most. But among the tests it is charged to one by the line: to the last
one that opens on the line of the issue behind the test that the issue is in, and to that test
itself exactly if none does. -/
theorem charged_by_line {parse : Parser} (inOrder : parse.InOrder) {path : Text} {content : Content}
    {framework : Option Framework} {s : Suite}
    (h : Suite.read parse path content framework = .ok s) {issues : List Issue} {i : Issue}
    (hi : i ∈ issues) {k : Nat} {t : TestCase} (hTest : s.tests[k]? = some t)
    (inside : t.span.Holds i.span.line i.span.column) :
    (∀ j u, s.tests[j]? = some u → u.span.Holds i.span.line i.span.column → j = k) ∧
      ∃ m, (m = k ∨ k < m ∧ ∃ u, s.tests[m]? = some u ∧ u.span.line = i.span.line) ∧
        (∀ j u, m < j → s.tests[j]? = some u → u.span.line ≠ i.span.line) ∧
        (m = k ↔ ∀ j u, k < j → s.tests[j]? = some u → u.span.line ≠ i.span.line) ∧
        ∀ j bucket, (attributeIssues s.tests issues)[j]? = some bucket → (i ∈ bucket ↔ j = m) := by
  have apart := pairwise_precedes_of_read inOrder h
  obtain ⟨m, u, innermost⟩ :=
    exists_isInnermost (List.mem_of_getElem? hTest) inside.containsLine
  have own := innermost.own_or_opens apart hTest inside
  have last (j : Nat) (v : TestCase) (hj : m < j) (hv : s.tests[j]? = some v) :
      v.span.line ≠ i.span.line := innermost.line_ne apart hj hv
  refine ⟨fun j v hv also => eq_of_holds apart hTest inside hv also, m, ?_, last, ?_, ?_⟩
  · exact own.imp_right fun ⟨past, opens⟩ => ⟨past, u, innermost.1, opens⟩
  · refine ⟨fun eq => eq ▸ last, fun none_opens => own.resolve_right ?_⟩
    rintro ⟨past, opens⟩
    exact none_opens m u past innermost.1 opens
  · intro j bucket hBucket
    have owner : testAt? s.tests i.span.line = some m := testAt?_eq_some_iff.mpr ⟨u, innermost⟩
    rw [mem_bucket_iff hBucket, owner, Option.some_inj]
    exact ⟨fun mem => mem.2.symm, fun eq => ⟨hi, eq.symm⟩⟩

/-- A parser that takes every text for two tests on one line, each with a call from its fifteenth
column on. -/
def oneLineParser : Parser := fun _ _ =>
  let node (kind field text : String) (first last : Nat) (children : List Node) : Node :=
    .mk { kind, field, text, start := { column := first }, stop := { column := last } } children
  let test (title text : String) (first : Nat) : Node :=
    let call := node "call_expression" "body" "f()" (first + 14) (first + 17)
      [node "identifier" "function" "f" (first + 14) (first + 15) [],
        node "arguments" "arguments" "()" (first + 15) (first + 17) []]
    let callback := node "arrow_function" "" "() => f()" (first + 8) (first + 17)
      [node "formal_parameters" "parameters" "()" (first + 8) (first + 10) [], call]
    node "call_expression" "" text first (first + 18)
      [node "identifier" "function" "it" first (first + 2) [],
        node "arguments" "arguments" "" (first + 2) (first + 18)
          [node "string" "" title (first + 3) (first + 6) [], callback]]
  { root := node "program" "" "it('a', () => f()); it('b', () => f())" 0 38
      [test "'a'" "it('a', () => f())" 0, test "'b'" "it('b', () => f())" 20] }

theorem oneLineParser_inOrder : oneLineParser.InOrder := by
  intro grammar text
  show (oneLineParser .typescript "").root.InOrder
  decide +kernel

/-- An issue about the call in the first of two tests on one line is charged to the second. -/
theorem charged_by_line_neighbours :
    let i : Issue :=
      { rule := "debug-code", severity := .warning, message := "m", span := .of 1 15 }
    ∃ s, Suite.read oneLineParser "two.test.ts" (.text "it('a', () => f()); it('b', () => f())")
        none = .ok s ∧
      (∃ t, s.tests[0]? = some t ∧ t.span.Holds i.span.line i.span.column) ∧
      ∀ j bucket, (attributeIssues s.tests [i])[j]? = some bucket → (i ∈ bucket ↔ j = 1) := by
  intro i
  have spans : ((Suite.read oneLineParser "two.test.ts"
      (.text "it('a', () => f()); it('b', () => f())") none).toOption.map
        fun s => s.tests.map (·.span)) = some [.of 1 1 1 19, .of 1 21 1 39] := by
    decide +kernel
  cases hRead : Suite.read oneLineParser "two.test.ts"
      (.text "it('a', () => f()); it('b', () => f())") none with
  | error e => simp [hRead, Except.toOption] at spans
  | ok s =>
    rw [hRead, Except.toOption, Option.map_some, Option.some_inj] at spans
    obtain ⟨first, rest, tests_eq, span_eq, spans⟩ := List.map_eq_cons_iff.mp spans
    obtain ⟨second, none_more, rfl, second_eq, spans⟩ := List.map_eq_cons_iff.mp spans
    obtain rfl := List.map_eq_nil_iff.mp spans
    have hFirst : s.tests[0]? = some first := by rw [tests_eq]; rfl
    have hSecond : s.tests[1]? = some second := by rw [tests_eq]; rfl
    have inside : first.span.Holds i.span.line i.span.column := by
      rw [span_eq]
      decide
    obtain ⟨-, m, own, last, -, charged⟩ :=
      charged_by_line oneLineParser_inOrder hRead (List.mem_singleton_self i) hFirst inside
    have second_opens : second.span.line = i.span.line := by rw [second_eq]; rfl
    have not_first : ¬ m < 1 := fun h => last 1 second h hSecond second_opens
    have not_past : ¬ 1 < m := by
      intro h
      obtain ⟨past, u, hu, -⟩ := own.resolve_left (by omega)
      rw [tests_eq, List.getElem?_eq_none (show [first, second].length ≤ m from h)] at hu
      cases hu
    obtain rfl : m = 1 := by omega
    exact ⟨s, rfl, ⟨first, hFirst, inside⟩, charged⟩

end SuiteAudit
