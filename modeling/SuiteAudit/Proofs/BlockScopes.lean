import SuiteAudit.Proofs.DocumentOrder

/-!
# Shared variables and the blocks around them

Whether a test can change a shared variable, and a hook set it, is told by the titles of the
describe blocks around them. So a test that counts as changing a variable lies in blocks with the
titles of those around the declaration, which are the very blocks unless others have the same titles
(`LiesIn`). A hook counts where its titles begin with those of the variable or the other way round:
it lies around the tests that change the variable, or somewhere in the block of the variable, where
it need not run for all of them (`shared_variables_by_titles`).
-/

namespace SuiteAudit

open Syntax Outline

/-! ### Places among blocks -/

section

variable {root : Node}

/-- Where something stands in blocks, something stands in the outer ones of them. -/
theorem StandsIn.of_append {outer inner : List Block} {n : Node}
    (h : StandsIn root (outer ++ inner) n) : ∃ m, StandsIn root outer m := by
  generalize hAround : outer ++ inner = around at h
  induction h generalizing inner with
  | @top n h =>
    obtain ⟨rfl, -⟩ := List.append_eq_nil_iff.mp hAround
    exact ⟨n, .top h⟩
  | child h hOpen hm ih => exact ih hAround
  | @inside around n m body b h hOpen hKind hBody hm ih =>
    rcases List.eq_nil_or_concat inner with rfl | ⟨front, last, rfl⟩
    · rw [List.append_nil] at hAround
      exact ⟨m, hAround ▸ h.inside hOpen hKind hBody hm⟩
    · rw [List.concat_eq_append, ← List.append_assoc] at hAround
      exact ih (List.append_inj_left' hAround rfl)

/-- What stands in a block is part of its body, and the block stands in the tree itself. -/
theorem StandsIn.part_of {around : List Block} {n : Node} (h : StandsIn root around n) :
    ∀ b ∈ around, b.kind = .describe ∧ (∃ body, b.body? = some body ∧ n ∈ body.nodes) ∧
      ∃ outer call, StandsIn root outer call ∧ block? call = some b := by
  induction h with
  | top h => simp
  | @child around n m h hOpen hm ih =>
    intro b hb
    obtain ⟨hKind, ⟨body, hBody, hn⟩, opened⟩ := ih b hb
    have part : m ∈ n.nodes := Node.mem_nodes_of_mem_children m.mem_nodes_self hm
    exact ⟨hKind, ⟨body, hBody, Node.mem_nodes_trans part hn⟩, opened⟩
  | @inside around n m body b h hOpen hKind hBody hm ih =>
    refine List.forall_mem_append.mpr ⟨fun c hc => ?_, List.forall_mem_singleton.mpr ?_⟩
    · obtain ⟨hKindC, ⟨outer, hOuter, hn⟩, opened⟩ := ih c hc
      have part : m ∈ n.nodes := mem_nodes_of_mem_below (ofCall?_of_block? hOpen)
        (mem_below_iff.mpr ⟨hKind, body, hBody, hm⟩)
      exact ⟨hKindC, ⟨outer, hOuter, Node.mem_nodes_trans part hn⟩, opened⟩
    · exact ⟨hKind, ⟨body, hBody, mem_nodes_of_mem_statements hm⟩, around, n, h, hOpen⟩

/-- A call that stands in blocks and opens one is a block of the file. -/
theorem StandsIn.mem_blocksOf {around : List Block} {call : Node} {b : Block}
    (h : StandsIn root around call) (hOpen : block? call = some b) :
    { block := b, call, describes := around.map (·.title), skipped := around.any (·.skipped) } ∈
      blocksOf root :=
  mem_blocksOf_iff.mpr ⟨around, h, hOpen, rfl, rfl⟩

/-- **By its titles a place lies in a block**: in the very block, unless others have the same
titles. -/
structure LiesIn (root : Node) (outer inner : List Block) : Prop where
  titles : outer.map (·.title) <+: inner.map (·.title)
  very : (∀ others n, StandsIn root others n → others.map (·.title) = outer.map (·.title) →
    others = outer) → outer <+: inner

theorem liesIn_of_titles {outer inner : List Block} {n : Node} (h : StandsIn root inner n)
    (titles : outer.map (·.title) <+: inner.map (·.title)) : LiesIn root outer inner where
  titles := titles
  very := by
    intro alone
    have front : StandsIn root (inner.take outer.length ++ inner.drop outer.length) n := by
      rwa [List.take_append_drop]
    obtain ⟨m, hm⟩ := front.of_append
    have same : (inner.take outer.length).map (·.title) = outer.map (·.title) := by
      rw [List.map_take]
      simpa using (List.prefix_iff_eq_take.mp titles).symm
    rw [← alone _ m hm same]
    exact List.take_prefix _ _

/-! ### Declarations, tests and hooks -/

/-- **A shared variable is declared in blocks** by a declarator of a declaration that stands
there. -/
structure DeclaredIn (root : Node) (around : List Block) (b : Binding) : Prop where
  describes_eq : b.describes = around.map (·.title)
  declares : ∃ n, StandsIn root around n ∧ n.isOneOf declarationKinds = true ∧
    ∃ declarator ∈ n.namedChildren,
      Body.declaredName? declarator = some b.name ∧ b.span = declarator.span

/-- **A test changes a variable** and declares none of the name: the test at an index among those of
a suite, whose call stands in blocks. -/
def ChangedIn (root : Node) (tests : List TestCase) (around : List Block) (index : Nat)
    (name : Text) : Prop :=
  ∃ p t body, (PlacedBlock.tests (blocksOf root))[index]? = some p ∧
    tests[index]? = some t ∧ p.Gives t ∧ StandsIn root around p.call ∧
    p.describes = around.map (·.title) ∧ p.block.callback.bind Body.of? = some body ∧
    name ∈ body.mutated ∧ name ∉ body.declared

/-- **A hook of a kind sets a variable**, as a whole or in part; its call stands in blocks. -/
def SetIn (root : Node) (around : List Block) (kind : HookKind) (name : Text) : Prop :=
  ∃ n b body, StandsIn root around n ∧ block? n = some b ∧ b.kind = .hook kind ∧
    b.callback.bind Body.of? = some body ∧ (name ∈ body.assigned ∨ name ∈ body.mutated)

theorem SetIn.exists_standsIn {around : List Block} {kind : HookKind} {name : Text}
    (h : SetIn root around kind name) : ∃ n, StandsIn root around n := by
  obtain ⟨n, -, -, hStands, -⟩ := h
  exact ⟨n, hStands⟩

/-- Whether what is still to be looked at stands in the blocks of its titles. -/
def Placed (root : Node) (todo : List Pending) : Prop :=
  ∀ p ∈ todo, ∃ around, StandsIn root around p.node ∧ p.place.describes = around.map (·.title)

theorem placed_pendingAt {place : Place} {nodes : List Node} {around : List Block}
    (titles : place.describes = around.map (·.title)) (h : ∀ n ∈ nodes, StandsIn root around n) :
    Placed root (pendingAt place nodes) := by
  intro p hp
  obtain ⟨n, hn, rfl⟩ := List.mem_map.mp hp
  exact ⟨around, h n hn, titles⟩

/-- **A declaration of the outline stands in the blocks of its titles.** -/
theorem exists_standsIn_declaration {todo : List Pending} (placed : Placed root todo) {n : Node}
    {describes : List Text} (h : Item.declaration n describes ∈ itemsFrom todo) :
    n.isOneOf declarationKinds = true ∧ ∃ around, StandsIn root around n ∧
      describes = around.map (·.title) := by
  fun_induction itemsFrom todo with
  | case1 => cases h
  | case2 m place todo b hOpen ih =>
    obtain ⟨⟨around, hStands, hTitles⟩, rest⟩ := List.forall_mem_cons.mp placed
    refine ih (List.forall_mem_append.mpr ⟨?_, rest⟩) (by simpa using h)
    have titles : (place.inside b).describes = (around ++ [b]).map (·.title) := by
      rw [List.map_append, ← hTitles]
      rfl
    refine placed_pendingAt titles fun k hk => ?_
    obtain ⟨hKind, body, hBody, hk⟩ := mem_below_iff.mp hk
    exact hStands.inside hOpen hKind hBody hk
  | case3 m place todo hOpen ih =>
    obtain ⟨⟨around, hStands, hTitles⟩, rest⟩ := List.forall_mem_cons.mp placed
    rcases List.mem_append.mp h with h | h
    · unfold itemsOf at h
      split at h
      · simp at h
      · split at h
        · next declares =>
          obtain ⟨rfl, rfl⟩ := Item.declaration.inj (List.mem_singleton.mp h)
          exact ⟨(Bool.and_eq_true_iff.mp declares).2, around, hStands, hTitles⟩
        · cases h
    · exact ih (List.forall_mem_append.mpr
        ⟨placed_pendingAt hTitles fun k hk => hStands.child hOpen hk, rest⟩) h

/-- What a shared variable has of its declarator and the place of the declaration. -/
theorem of_binding? {keyword : Text} {describes : List Text} {declarator : Node} {b : Binding}
    (h : Suite.binding? keyword describes declarator = some b) :
    b.describes = describes ∧ Body.declaredName? declarator = some b.name ∧
      b.span = declarator.span := by
  unfold Suite.binding? at h
  simp only [Option.bind_eq_bind] at h
  split at h
  · cases h
  · obtain ⟨name, hName, h⟩ := Option.bind_eq_some_iff.mp h
    split at h
    · cases h
    · obtain rfl := Option.some.inj h
      exact ⟨rfl, hName, rfl⟩

/-- **A shared variable of the outline is declared in the blocks of its titles.** -/
theorem exists_declaredIn {b : Binding} (h : b ∈ (outline root).flatMap Suite.bindingsOf) :
    ∃ around, DeclaredIn root around b := by
  obtain ⟨item, hItem, hb⟩ := List.mem_flatMap.mp h
  cases item with
  | block block call place => cases hb
  | call node => cases hb
  | declaration n describes =>
    have placed : Placed root (pendingAt {} root.children) :=
      placed_pendingAt rfl fun n hn => .top hn
    obtain ⟨hKind, around, hStands, hTitles⟩ := exists_standsIn_declaration placed hItem
    obtain ⟨declarator, hMem, hBinding⟩ := List.mem_filterMap.mp hb
    obtain ⟨hDescribes, hName, hSpan⟩ := of_binding? hBinding
    exact ⟨around, hDescribes.trans hTitles, n, hStands, hKind, declarator, hMem, hName, hSpan⟩

/-! ### What is recorded of a shared variable -/

theorem PlacedBlock.body_of_read {p : PlacedBlock} {index : Nat} {t : Suite.ReadTest}
    (h : p.read index = .ok t) : t.body = p.block.callback.bind Body.of? := by
  rw [read, Suite.readTest, bind_eq_ok] at h
  obtain ⟨calls, -, h⟩ := h
  rw [bind_eq_ok] at h
  obtain ⟨rows, -, h⟩ := h
  obtain rfl := Except.ok.inj h
  rfl

/-- A test that is read is the test of its block. -/
theorem PlacedBlock.exists_testOf_of_read {p : PlacedBlock} {index : Nat} {t : Suite.ReadTest}
    (h : p.read index = .ok t) : ∃ calls,
      t.test = Suite.testOf p.block p.call p.place (p.block.callback.bind Body.of?) calls := by
  rw [read, Suite.readTest, bind_eq_ok] at h
  obtain ⟨calls, -, h⟩ := h
  rw [bind_eq_ok] at h
  obtain ⟨rows, -, h⟩ := h
  obtain rfl := Except.ok.inj h
  exact ⟨calls, rfl⟩

/-- The test at an index is read off the block there. -/
theorem exists_read_of_getElem? {blocks : List PlacedBlock} {first index : Nat}
    {tests : List Suite.ReadTest} (h : PlacedBlock.readFrom first blocks = .ok tests)
    {t : Suite.ReadTest} (ht : tests[index]? = some t) :
    ∃ p, blocks[index]? = some p ∧ ∃ i, p.read i = .ok t := by
  obtain ⟨length_eq, read⟩ := List.forall₂_iff_get.mp (forall₂_read h)
  obtain ⟨hIndex, rfl⟩ := List.getElem?_eq_some_iff.mp ht
  have hBlock : index < blocks.length := length_eq ▸ hIndex
  exact ⟨blocks[index], List.getElem?_eq_getElem hBlock, read index hBlock hIndex⟩

/-- A test of a suite is read off the block at its index. -/
theorem exists_read_of_getElem?_map {blocks : List PlacedBlock} {first index : Nat}
    {tests : List Suite.ReadTest} (h : PlacedBlock.readFrom first blocks = .ok tests)
    {t : TestCase} (ht : (tests.map (·.test))[index]? = some t) :
    ∃ p read i, blocks[index]? = some p ∧ p.read i = .ok read ∧ read.test = t := by
  rw [List.getElem?_map] at ht
  obtain ⟨read, hIndex, rfl⟩ := Option.map_eq_some_iff.mp ht
  obtain ⟨p, hp, i, hRead⟩ := exists_read_of_getElem? h hIndex
  exact ⟨p, read, i, hp, hRead, rfl⟩

/-- **The tests of a suite** are read off the test calls of the tree. -/
theorem exists_readFrom_of_read {parse : Parser} {path : Text} {content : Content}
    {framework : Option Framework} {s : Suite}
    (h : Suite.read parse path content framework = .ok s) :
    ∃ grammar text tests, Grammar.ofPath? path = some grammar ∧ content.string? = some text ∧
      PlacedBlock.readFrom 0 (PlacedBlock.tests (blocksOf (parse grammar text).root)) = .ok tests ∧
        s.tests = tests.map (·.test) := by
  obtain ⟨grammar, text, outlined, hGrammar, hText, hOutline, hSuite⟩ := exists_ofOutline_of_read h
  rw [Suite.ofOutline, bind_eq_ok] at hOutline
  obtain ⟨tests, hTests, hOutline⟩ := hOutline
  rw [readTests_eq_readFrom, placed_outline] at hTests
  exact ⟨grammar, text, tests, hGrammar, hText, hTests, by rw [hSuite, ← Except.ok.inj hOutline]⟩

/-- **The tests that are recorded for a variable** change it and none of their own, and their titles
begin with its titles. -/
theorem exists_of_mem_mutatedIn {tests : List Suite.ReadTest} {b : Binding} {index : Nat}
    (h : index ∈ Suite.mutatedIn tests b) : ∃ t body, tests[index]? = some t ∧ t.body = some body ∧
      b.name ∈ body.mutated ∧ b.name ∉ body.declared ∧ b.describes <+: t.test.describes := by
  obtain ⟨⟨t, j⟩, hMem, rfl⟩ := List.mem_map.mp h
  obtain ⟨hMem, changes⟩ := List.mem_filter.mp hMem
  have ht : tests[j]? = some t := by simpa using List.mk_mem_zipIdx_iff_getElem?.mp hMem
  unfold Suite.mutates at changes
  rw [Bool.and_eq_true, Option.any_eq_true] at changes
  obtain ⟨⟨body, hBody, changes⟩, titles⟩ := changes
  simp only [Bool.and_eq_true, List.contains_iff_mem, Bool.not_eq_true',
    ← Bool.not_eq_true] at changes
  exact ⟨t, body, ht, hBody, changes.1, changes.2, List.isPrefixOf_iff_prefix.mp titles⟩

/-- **The kinds of hook that are recorded for a variable** are those of hooks that set a variable of
its name and whose titles begin with its titles, or the other way round. -/
theorem exists_of_mem_resetBy {hooks : List Hook} {b : Binding} {kind : HookKind}
    (h : kind ∈ Suite.resetBy hooks b) : ∃ hook ∈ hooks, hook.kind = kind ∧
      b.name ∈ hook.assigned ∧
        (hook.describes <+: b.describes ∨ b.describes <+: hook.describes) := by
  unfold Suite.resetBy at h
  dsimp only at h
  rw [List.mem_mergeSort, List.mem_eraseDups] at h
  obtain ⟨hook, hMem, rfl⟩ := List.mem_map.mp h
  obtain ⟨hMem, sets⟩ := List.mem_filter.mp hMem
  rw [Bool.and_eq_true, Suite.overlap, Bool.or_eq_true, List.contains_iff_mem] at sets
  exact ⟨hook, hMem, rfl, sets.1, sets.2.imp List.isPrefixOf_iff_prefix.mp
    List.isPrefixOf_iff_prefix.mp⟩

/-- **A hook that sets a variable stands in the blocks of its titles.** -/
theorem exists_setIn {hook : Hook} (h : hook ∈ (outline root).filterMap Suite.hook?) {name : Text}
    (sets : name ∈ hook.assigned) :
    ∃ around, SetIn root around hook.kind name ∧ hook.describes = around.map (·.title) := by
  rw [filterMap_hook?, placed_outline] at h
  obtain ⟨p, hp, hHook⟩ := List.mem_filterMap.mp h
  obtain ⟨around, hStands, hOpen, hTitles, -⟩ := mem_blocksOf_iff.mp hp
  unfold PlacedBlock.item Suite.hook? at hHook
  dsimp only at hHook
  split at hHook
  · next kind hKind =>
    obtain rfl := Option.some.inj hHook
    unfold Suite.hookOf at sets
    dsimp only at sets
    rw [List.mem_mergeSort, List.mem_eraseDups] at sets
    cases hBody : p.block.callback.bind Body.of? with
    | none =>
      rw [hBody] at sets
      cases sets
    | some body =>
      rw [hBody] at sets
      exact ⟨around, ⟨p.call, p.block, body, hStands, hOpen, hKind, hBody, List.mem_append.mp sets⟩,
        hTitles⟩
  · cases hHook

end

/-! ### Suites -/

/-- **Shared variables follow blocks.** Every test that is recorded for a variable changes it and
lies `inside` the blocks of its declaration. For every kind of hook around single tests that is
recorded, and every such test, a hook of the kind sets the variable that `counts`. -/
def FollowBlocks (root : Node) (s : Suite) (inside : (declared test : List Block) → Prop)
    (counts : (declared test hook : List Block) → Prop) : Prop :=
  ∀ b ∈ s.bindings, ∃ declared, DeclaredIn root declared b ∧ ∀ index ∈ b.mutatedIn,
    ∃ test, ChangedIn root s.tests test index b.name ∧ inside declared test ∧
      ∀ kind ∈ b.resetBy, kind.perTest = true →
        ∃ hook, SetIn root hook kind b.name ∧ counts declared test hook

theorem followBlocks_of_ofOutline {root : Node} {s : Suite}
    (h : Suite.ofOutline (outline root) = .ok s) :
    FollowBlocks root s (LiesIn root)
      fun declared test hook => LiesIn root hook test ∨ LiesIn root declared hook := by
  rw [Suite.ofOutline, bind_eq_ok] at h
  obtain ⟨tests, hTests, h⟩ := h
  obtain rfl := Except.ok.inj h
  rw [readTests_eq_readFrom, placed_outline] at hTests
  intro b hb
  obtain ⟨found, hFound, rfl⟩ := List.mem_map.mp hb
  obtain ⟨declared, hDeclared⟩ := exists_declaredIn hFound
  refine ⟨declared, ⟨hDeclared.describes_eq, hDeclared.declares⟩, fun index hIndex => ?_⟩
  obtain ⟨t, body, ht, hBody, changes, own, titles⟩ := exists_of_mem_mutatedIn hIndex
  obtain ⟨p, hp, _, hRead⟩ := exists_read_of_getElem? hTests ht
  have hGives := PlacedBlock.gives_of_read hRead
  obtain ⟨test, hStands, -, hTitles, -⟩ :=
    mem_blocksOf_iff.mp (List.mem_filter.mp (List.mem_of_getElem? hp)).1
  rw [hDeclared.describes_eq, hGives.describes_eq, hTitles] at titles
  have changed : ChangedIn root (tests.map (·.test)) test index found.name :=
    ⟨p, t.test, body, hp, by rw [List.getElem?_map, ht]; rfl, hGives, hStands, hTitles,
      (PlacedBlock.body_of_read hRead).symm.trans hBody, changes, own⟩
  refine ⟨test, changed, liesIn_of_titles hStands titles, fun kind hKind _ => ?_⟩
  obtain ⟨hook, hHook, rfl, sets, near⟩ := exists_of_mem_resetBy hKind
  obtain ⟨around, hSet, hAround⟩ := exists_setIn hHook sets
  obtain ⟨n, hStandsHook⟩ := hSet.exists_standsIn
  rw [hDeclared.describes_eq, hAround] at near
  refine ⟨around, hSet, near.imp (fun outer => ?_) fun inner => ?_⟩
  · exact liesIn_of_titles hStands (outer.trans titles)
  · exact liesIn_of_titles hStandsHook inner

/-- **Shared variables follow blocks as far as titles tell them apart.** A test that is recorded for
a variable lies by its titles in the blocks of the declaration. A hook that is recorded for it lies
around the test by its titles, or inside the blocks of the declaration; so no hook counts that
stands beside them. -/
theorem shared_variables_by_titles {parse : Parser} {path : Text} {content : Content}
    {framework : Option Framework} {s : Suite}
    (h : Suite.read parse path content framework = .ok s) :
    ∃ grammar text, Grammar.ofPath? path = some grammar ∧ content.string? = some text ∧
      FollowBlocks (parse grammar text).root s (LiesIn (parse grammar text).root)
        fun declared test hook =>
          LiesIn (parse grammar text).root hook test ∨
            LiesIn (parse grammar text).root declared hook := by
  obtain ⟨grammar, text, outlined, hGrammar, hText, hOutline, hSuite⟩ := exists_ofOutline_of_read h
  refine ⟨grammar, text, hGrammar, hText, ?_⟩
  have follow := followBlocks_of_ofOutline hOutline
  rw [hSuite]
  exact follow

/-- A file of three describe blocks, two of which have the same title and a variable `y` of their
own. The variable `x` of the file is set by a hook of the first block, and changed by a test of the
first block and by one of the second. -/
def twinBlocks : Node :=
  let node (kind field text : String) (children : List Node) : Node :=
    .mk { kind, field, text } children
  let change (name : String) : Node :=
    node "update_expression" "" "" [node "identifier" "argument" name []]
  let set (name : String) : Node :=
    node "assignment_expression" "" ""
      [node "identifier" "left" name [], node "number" "right" "0" []]
  let declare (name : String) : Node :=
    node "lexical_declaration" "" ""
      [node "let" "" "let" [], node "variable_declarator" "" "" [node "identifier" "name" name []]]
  let call (name text : String) (before statements : List Node) : Node :=
    node "call_expression" "" text
      [node "identifier" "function" name [],
        node "arguments" "arguments" "" <| before ++
          [node "arrow_function" "" "" [node "statement_block" "body" "" statements]]]
  let block (title : String) : List Node → Node :=
    call "describe" "" [node "string" "" title []]
  let test (title : String) : List Node → Node :=
    call "it" title [node "string" "" title []]
  node "program" "" ""
    [declare "x",
      block "'one'" [call "beforeEach" "" [] [set "x"], test "'adds'" [change "x"]],
      block "'two'" [declare "y", test "'counts'" [change "x", change "y"]],
      block "'two'" [declare "y", test "'counts down'" [change "y"]]]

/-- A parser that takes every text for that file. -/
def twinParser : Parser := fun _ _ => { root := twinBlocks }

/-- The shared variables of that file. -/
def twinBindings : List Binding :=
  [{ name := "x", span := .of 1 1 1 1, resetBy := [.beforeEach], mutatedIn := [0, 1] },
    { name := "y", span := .of 1 1 1 1, describes := ["two"], mutatedIn := [1, 2] },
    { name := "y", span := .of 1 1 1 1, describes := ["two"], mutatedIn := [1, 2] }]

theorem exists_read_twinParser :
    ∃ s, Suite.read twinParser "twins.test.ts" (.text "") (some .vitest) = .ok s ∧
      s.bindings = twinBindings := by
  have bindings_eq : ((Suite.read twinParser "twins.test.ts" (.text "") (some .vitest)).toOption.map
      (·.bindings)) = some twinBindings := by
    decide +kernel
  cases hRead : Suite.read twinParser "twins.test.ts" (.text "") (some .vitest) with
  | error e => simp [hRead, Except.toOption] at bindings_eq
  | ok s =>
    rw [hRead] at bindings_eq
    exact ⟨s, rfl, Option.some.inj bindings_eq⟩

/-- The recorded tests and hooks of that file follow its titles. -/
theorem shared_variables_by_titles_twins :
    ∃ s, Suite.read twinParser "twins.test.ts" (.text "") (some .vitest) = .ok s ∧
      s.bindings = twinBindings ∧
      FollowBlocks twinBlocks s (LiesIn twinBlocks) fun declared test hook =>
        LiesIn twinBlocks hook test ∨ LiesIn twinBlocks declared hook := by
  obtain ⟨s, hRead, hBindings⟩ := exists_read_twinParser
  obtain ⟨_, _, -, -, follow⟩ := shared_variables_by_titles hRead
  exact ⟨s, hRead, hBindings, follow⟩

/-! ### Beyond titles -/

/-- The titles around the tests of that file, and the texts of their calls. -/
def twinTests : List (List Text × String) :=
  [(["one"], "'adds'"), (["two"], "'counts'"), (["two"], "'counts down'")]

theorem twinTests_getElem? {index : Nat} {p : PlacedBlock}
    (h : (PlacedBlock.tests (blocksOf twinBlocks))[index]? = some p) :
    twinTests[index]? = some (p.describes, p.call.text) := by
  have tests_eq : (PlacedBlock.tests (blocksOf twinBlocks)).map
      (fun p => (p.describes, p.call.text)) = twinTests := by
    decide +kernel
  rw [← tests_eq, List.getElem?_map, h, Option.map_some]

/-- The hook of that file stands in the first block. -/
theorem titles_of_setIn_twinBlocks {around : List Block} {name : Text}
    (h : SetIn twinBlocks around .beforeEach name) : around.map (·.title) = ["one"] := by
  have all_hooks : (blocksOf twinBlocks).all fun p =>
      p.block.kind != .hook .beforeEach || p.describes == ["one"] := by
    decide +kernel
  obtain ⟨n, b, body, hStands, hOpen, hKind, -⟩ := h
  have placed := List.all_eq_true.mp all_hooks _ (hStands.mem_blocksOf hOpen)
  simpa [hKind] using placed

/-- No block of that file is around both tests of the blocks with one title. -/
theorem not_around_both {b : Block} {m n : Node} {inner others : List Block}
    (hm : StandsIn twinBlocks inner m) (hn : StandsIn twinBlocks others n) (hb : b ∈ inner)
    (hb' : b ∈ others) : ¬(m.text = "'counts'" ∧ n.text = "'counts down'") := by
  have apart : (blocksOf twinBlocks).all fun p => p.block.body?.all fun body =>
      p.block.kind != .describe ||
        !(body.nodes.any (·.text == "'counts'") && body.nodes.any (·.text == "'counts down'")) := by
    decide +kernel
  rintro ⟨hCounts, hDown⟩
  obtain ⟨hKind, ⟨body, hBody, m_mem⟩, outer, call, hStands, hOpen⟩ := hm.part_of b hb
  obtain ⟨-, ⟨body', hBody', n_mem⟩, -⟩ := hn.part_of b hb'
  obtain rfl : body = body' := Option.some.inj (hBody.symm.trans hBody')
  have placed := List.all_eq_true.mp apart _ (hStands.mem_blocksOf hOpen)
  simp only [hBody, hKind, Option.all_some, bne_self_eq_false, Bool.false_or, Bool.not_eq_true',
    Bool.and_eq_false_iff, List.any_eq_false, beq_iff_eq] at placed
  exact placed.elim (fun h => h m m_mem hCounts) fun h => h n n_mem hDown

/-- **Titles do not tell all blocks apart**, and a hook that is recorded need not run for all tests
that change the variable. -/
theorem shared_variables_beyond_titles :
    ∃ s, Suite.read twinParser "twins.test.ts" (.text "") (some .vitest) = .ok s ∧
      ¬FollowBlocks twinBlocks s (fun declared test => declared <+: test)
        (fun _ test hook => hook <+: test) ∧
      ¬FollowBlocks twinBlocks s (fun declared test => declared <+: test) (fun _ _ _ => True) ∧
      ¬FollowBlocks twinBlocks s (fun _ _ => True) (fun _ test hook => hook <+: test) := by
  obtain ⟨s, hRead, hBindings⟩ := exists_read_twinParser
  have not_inside : ¬FollowBlocks twinBlocks s (fun declared test => declared <+: test)
      (fun _ _ _ => True) := by
    intro follow
    obtain ⟨declared, hDeclared, changed⟩ := follow twinBindings[1] (by rw [hBindings]; decide)
    obtain ⟨b, rfl, -⟩ := List.map_eq_singleton_iff.mp hDeclared.describes_eq.symm
    obtain ⟨_, ⟨p, -, -, hp, -, -, hStands, -⟩, inside, -⟩ := changed 1 (by decide)
    obtain ⟨_, ⟨q, -, -, hq, -, -, hStands', -⟩, inside', -⟩ := changed 2 (by decide)
    have counts := (Prod.mk.inj (Option.some.inj (twinTests_getElem? hp))).2
    have down := (Prod.mk.inj (Option.some.inj (twinTests_getElem? hq))).2
    exact not_around_both hStands hStands' (inside.subset List.mem_cons_self)
      (inside'.subset List.mem_cons_self) ⟨counts.symm, down.symm⟩
  refine ⟨s, hRead, fun follow => not_inside ?_, not_inside, fun follow => ?_⟩
  · intro b hb
    obtain ⟨declared, hDeclared, changed⟩ := follow b hb
    refine ⟨declared, hDeclared, fun index hIndex => ?_⟩
    obtain ⟨test, hChanged, inside, counted⟩ := changed index hIndex
    refine ⟨test, hChanged, inside, fun kind hKind around => ?_⟩
    exact (counted kind hKind around).imp fun hook h => ⟨h.1, trivial⟩
  · obtain ⟨declared, -, changed⟩ := follow twinBindings[0] (by rw [hBindings]; decide)
    obtain ⟨test, ⟨p, t, -, hp, -, -, -, hTitles, -⟩, -, counted⟩ := changed 1 (by decide)
    obtain ⟨hook, hSet, outer⟩ := counted .beforeEach (by decide) rfl
    have titles := outer.map (·.title)
    rw [titles_of_setIn_twinBlocks hSet, ← hTitles,
      ← (Prod.mk.inj (Option.some.inj (twinTests_getElem? hp))).1] at titles
    exact absurd titles (by decide)

end SuiteAudit
