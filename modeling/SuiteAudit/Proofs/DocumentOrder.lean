import Mathlib.Data.List.Forall2
import SuiteAudit.Proofs.Outcomes

/-!
# Blocks in document order

The outline of a file is made from a list of nodes that are still to be looked at. `blocksIn` finds
the same blocks by recursion on the tree: a block comes before what is below it, and that before
what follows. The law is that the nodes still to be looked at hold, together and in order, the
blocks that the outline will have (`placed_itemsFrom`). So a suite has the tests, hooks and markers
that the recursion finds, each once, and a block is found exactly where the tree has one, among the
describe blocks around it (`suite_in_document_order`).
-/

namespace SuiteAudit

open Syntax Outline

/-! ### The recursion -/

/-- **A block in its place**: the call that opens it, the titles of the describe blocks around it,
the outermost first, and whether one of them is skipped. -/
structure PlacedBlock where
  block : Block
  call : Node
  describes : List Text
  skipped : Bool

theorem below_eq_nil {b : Block}
    (h : ∀ body, b.kind = .describe → b.body? = some body → False) : below b = [] := by
  unfold below
  split
  · next body hKind hBody => exact (h body hKind hBody).elim
  · rfl

/-- The statements of a callback are smaller than the call that the callback is passed to. -/
theorem size_lt_of_mem_statements {n m body : Node} {b : Block} (h : block? n = some b)
    (hKind : b.kind = .describe) (hBody : b.body? = some body) (hm : m ∈ statements body) :
    m.size < n.size := by
  have below_eq : below b = statements body := by rw [below, hKind, hBody]
  have below_lt := sizeAll_below_lt h
  rw [below_eq] at below_lt
  exact Nat.lt_of_le_of_lt (Node.size_le_sizeAll hm) below_lt

/-- **The blocks of a tree in document order.** A describe block is followed by the blocks in the
body of its callback, which have its title at the end of theirs and are skipped where it is. Nothing
below a test or hook is looked at, and all children of any other node are. -/
def blocksIn (describes : List Text) (skipped : Bool) (n : Node) : List PlacedBlock :=
  match _hOpen : block? n with
  | none => n.children.attach.flatMap fun m => blocksIn describes skipped m.1
  | some b =>
    { block := b, call := n, describes, skipped } ::
      match _hKind : b.kind, _hBody : b.body? with
      | .describe, some body =>
        (statements body).attach.flatMap fun m =>
          blocksIn (describes ++ [b.title]) (skipped || b.skipped) m.1
      | _, _ => []
termination_by n.size
decreasing_by
  · exact Node.size_lt_of_mem m.2
  · exact size_lt_of_mem_statements _hOpen _hKind _hBody m.2

/-- **The blocks of a file in document order.** -/
def blocksOf (root : Node) : List PlacedBlock :=
  root.children.flatMap (blocksIn [] false)

theorem flatMap_attach {α β : Type} (xs : List α) (f : α → List β) :
    (xs.attach.flatMap fun x => f x.1) = xs.flatMap f := by
  rw [← List.flatMap_map, List.attach_map_subtype_val]

section

variable {describes : List Text} {skipped : Bool} {n : Node}

theorem blocksIn_of_none (h : block? n = none) :
    blocksIn describes skipped n = n.children.flatMap (blocksIn describes skipped) := by
  rw [blocksIn]
  split
  · exact flatMap_attach _ _
  · next b hOpen =>
    rw [h] at hOpen
    cases hOpen

theorem blocksIn_of_some {b : Block} (h : block? n = some b) :
    blocksIn describes skipped n = { block := b, call := n, describes, skipped } ::
      (below b).flatMap (blocksIn (describes ++ [b.title]) (skipped || b.skipped)) := by
  rw [blocksIn]
  split
  · next hOpen =>
    rw [h] at hOpen
    cases hOpen
  · next b' hOpen =>
    obtain rfl : b = b' := Option.some.inj (h.symm.trans hOpen)
    congr 1
    split
    · next body hKind hBody =>
      rw [below, hKind, hBody]
      exact flatMap_attach _ _
    · next hNot =>
      rw [below_eq_nil hNot]
      rfl

end

/-- **The tokens of a body hold no block**: where its nameless nodes have none, the body as a whole
has the blocks of its statements. -/
theorem blocksIn_body {describes : List Text} {skipped : Bool} {body : Node}
    (tokens : ∀ m ∈ body.children, m.named = false → blocksIn describes skipped m = []) :
    blocksIn describes skipped body =
      (statements body).flatMap (blocksIn describes skipped) := by
  unfold statements
  split
  · next hKind =>
    have no_block : block? body = none := by
      unfold block?
      rw [if_neg]
      rw [beq_iff_eq] at hKind
      simp [hKind]
    rw [blocksIn_of_none no_block, Node.namedChildren]
    generalize body.children = ns at tokens
    induction ns with
    | nil => rfl
    | cons m ns ih =>
      have rest := ih fun k hk => tokens k (List.mem_cons_of_mem m hk)
      rw [List.flatMap_cons, rest, List.filter_cons]
      cases hNamed : m.named with
      | true => rw [if_pos rfl, List.flatMap_cons]
      | false =>
        rw [if_neg Bool.false_ne_true, tokens m List.mem_cons_self hNamed, List.nil_append]
  · rw [List.flatMap_cons, List.flatMap_nil, List.append_nil]

/-! ### The outline finds the same -/

/-- The block of an item in its place. -/
def Item.placed? : Item → Option PlacedBlock
  | .block b n place =>
    some { block := b, call := n, describes := place.describes, skipped := place.skipped }
  | _ => none

theorem Item.placed?_block (b : Block) (n : Node) (place : Place) :
    (Item.block b n place).placed? =
      some { block := b, call := n, describes := place.describes, skipped := place.skipped } :=
  rfl

/-- The blocks that a node still to be looked at holds. -/
def Outline.Pending.blocks (p : Pending) : List PlacedBlock :=
  blocksIn p.place.describes p.place.skipped p.node

theorem placed_itemsOf (n : Node) (p : Place) : (itemsOf n p).filterMap Item.placed? = [] := by
  unfold itemsOf
  split
  · rfl
  · split <;> rfl

/-- **What is still to be looked at holds the blocks to come**, in order. -/
theorem placed_itemsFrom (todo : List Pending) :
    (itemsFrom todo).filterMap Item.placed? = todo.flatMap Pending.blocks := by
  have at_place (p : Place) (nodes : List Node) : (pendingAt p nodes).flatMap Pending.blocks =
      nodes.flatMap (blocksIn p.describes p.skipped) := by
    rw [pendingAt, List.flatMap_map]
    rfl
  -- The node taken gives way to what is below it, so the law is that of the recursion at that node.
  fun_induction itemsFrom todo with
  | case1 => rfl
  | case2 n p todo b hOpen ih =>
    rw [List.filterMap_cons_some (Item.placed?_block b n p), ih, List.flatMap_append, at_place,
      List.flatMap_cons, Pending.blocks, blocksIn_of_some hOpen]
    rfl
  | case3 n p todo hOpen ih =>
    rw [List.filterMap_append, placed_itemsOf, List.nil_append, ih, List.flatMap_append, at_place,
      List.flatMap_cons, Pending.blocks, blocksIn_of_none hOpen]
    rfl

/-- **The blocks of an outline** are those of the recursion. -/
theorem placed_outline (root : Node) :
    (outline root).filterMap Item.placed? = blocksOf root := by
  rw [outline, placed_itemsFrom, pendingAt, List.flatMap_map]
  rfl

/-! ### What a suite reads off blocks -/

namespace PlacedBlock

/-- Where the block stands. -/
def place (p : PlacedBlock) : Place where
  describes := p.describes
  skipped := p.skipped

/-- The entry of the outline that the block is. -/
def item (p : PlacedBlock) : Item :=
  .block p.block p.call p.place

/-- The tests among blocks. -/
def tests (blocks : List PlacedBlock) : List PlacedBlock :=
  blocks.filter (·.block.kind == .test)

/-- Reads the block as the test that is the one at `index`. -/
def read (p : PlacedBlock) (index : Nat) : Except NumberTooLarge Suite.ReadTest :=
  Suite.readTest index p.block p.call p.place

/-- Reads blocks as tests, the first as the one at `index`. -/
def readFrom (index : Nat) (blocks : List PlacedBlock) :
    Except NumberTooLarge (List Suite.ReadTest) :=
  (blocks.zipIdx index).mapM fun (p, i) => p.read i

end PlacedBlock

theorem filterMap_hook? (items : List Item) :
    items.filterMap Suite.hook? =
      (items.filterMap Item.placed?).filterMap fun p => Suite.hook? p.item := by
  rw [List.filterMap_filterMap]
  apply List.filterMap_congr
  intro item _
  cases item <;> rfl

theorem filterMap_marker? (items : List Item) :
    items.filterMap Suite.marker? =
      (items.filterMap Item.placed?).filterMap fun p => Suite.marker? p.item := by
  rw [List.filterMap_filterMap]
  apply List.filterMap_congr
  intro item _
  cases item <;> rfl

/-- **Tests are read in the order of their blocks**, each with its own index. -/
theorem readTests_eq_readFrom (items : List Item) (index : Nat) :
    Suite.readTests (Suite.numberedFrom index items) =
      PlacedBlock.readFrom index (PlacedBlock.tests (items.filterMap Item.placed?)) := by
  induction items generalizing index with
  | nil => rfl
  | cons item items ih =>
    cases item with
    | call node => exact ih index
    | declaration node describes => exact ih index
    | block b call place =>
      rw [Suite.numberedFrom, Suite.readTests,
        List.filterMap_cons_some (Item.placed?_block b call place), PlacedBlock.tests,
        List.filter_cons, Suite.isTest]
      dsimp only
      cases b.kind == .test with
      | false => exact ih index
      | true =>
        rw [if_pos rfl, if_pos rfl, if_pos rfl, PlacedBlock.readFrom, List.zipIdx_cons,
          List.mapM_cons, ih]
        rfl

/-! ### Where blocks stand -/

/-- **Where a node stands**: it is reached from the root by going down to children, but from a
describe block to the statements of its callback. `around` are the blocks passed on the way, the
outermost first. -/
inductive StandsIn (root : Node) : (around : List Block) → Node → Prop where
  | top {n : Node} (h : n ∈ root.children) : StandsIn root [] n
  | child {around : List Block} {n m : Node} (h : StandsIn root around n)
      (hOpen : block? n = none) (hm : m ∈ n.children) : StandsIn root around m
  | inside {around : List Block} {n m body : Node} {b : Block} (h : StandsIn root around n)
      (hOpen : block? n = some b) (hKind : b.kind = .describe) (hBody : b.body? = some body)
      (hm : m ∈ statements body) : StandsIn root (around ++ [b]) m

theorem mem_below_iff {b : Block} {m : Node} :
    m ∈ below b ↔ b.kind = .describe ∧ ∃ body, b.body? = some body ∧ m ∈ statements body := by
  constructor
  · intro hm
    unfold below at hm
    split at hm
    · next body hKind hBody => exact ⟨hKind, body, hBody, hm⟩
    · cases hm
  · rintro ⟨hKind, body, hBody, hm⟩
    rwa [below, hKind, hBody]

section

variable {root : Node}

/-- The blocks at and below a node of the tree are blocks of the file. -/
theorem StandsIn.blocksIn_subset {around : List Block} {n : Node} (h : StandsIn root around n) :
    blocksIn (around.map (·.title)) (around.any (·.skipped)) n ⊆ blocksOf root := by
  induction h with
  | top h => exact fun p hp => List.mem_flatMap.mpr ⟨_, h, hp⟩
  | child h hOpen hm ih =>
    refine List.Subset.trans (fun p hp => ?_) ih
    rw [blocksIn_of_none hOpen]
    exact List.mem_flatMap.mpr ⟨_, hm, hp⟩
  | @inside around n m body b h hOpen hKind hBody hm ih =>
    refine List.Subset.trans (fun p hp => ?_) ih
    rw [blocksIn_of_some hOpen]
    refine List.mem_cons_of_mem _
      (List.mem_flatMap.mpr ⟨m, mem_below_iff.mpr ⟨hKind, body, hBody, hm⟩, ?_⟩)
    simpa [Bool.or_assoc] using hp

/-- A block of a tree stands in the describe blocks around the tree, and in those on the way. -/
theorem exists_of_mem_blocksIn {p : PlacedBlock} :
    ∀ {n : Node} {around : List Block}, StandsIn root around n →
      p ∈ blocksIn (around.map (·.title)) (around.any (·.skipped)) n →
        ∃ around, StandsIn root around p.call ∧ block? p.call = some p.block ∧
          p.describes = around.map (·.title) ∧ p.skipped = around.any (·.skipped)
  | n, around, h, hp => by
    cases hOpen : block? n with
    | none =>
      rw [blocksIn_of_none hOpen] at hp
      obtain ⟨m, hm, hp⟩ := List.mem_flatMap.mp hp
      -- Both recursive calls are at a smaller node, which is a child only in this case.
      have := Node.size_lt_of_mem hm
      exact exists_of_mem_blocksIn (h.child hOpen hm) hp
    | some b =>
      rw [blocksIn_of_some hOpen] at hp
      rcases List.mem_cons.mp hp with rfl | hp
      · exact ⟨around, h, hOpen, rfl, rfl⟩
      · obtain ⟨m, hm, hp⟩ := List.mem_flatMap.mp hp
        obtain ⟨hKind, body, hBody, hm⟩ := mem_below_iff.mp hm
        have := size_lt_of_mem_statements hOpen hKind hBody hm
        refine exists_of_mem_blocksIn (h.inside hOpen hKind hBody hm) ?_
        simpa [Bool.or_assoc] using hp
termination_by n => n.size

/-- **A block is found exactly where the tree has one**, with the titles of the describe blocks
around it. -/
theorem mem_blocksOf_iff {p : PlacedBlock} :
    p ∈ blocksOf root ↔ ∃ around, StandsIn root around p.call ∧ block? p.call = some p.block ∧
      p.describes = around.map (·.title) ∧ p.skipped = around.any (·.skipped) := by
  constructor
  · intro hp
    obtain ⟨n, hn, hp⟩ := List.mem_flatMap.mp hp
    exact exists_of_mem_blocksIn (.top hn) hp
  · rintro ⟨around, h, hOpen, hDescribes, hSkipped⟩
    apply h.blocksIn_subset
    rw [blocksIn_of_some hOpen, ← hDescribes, ← hSkipped]
    exact List.mem_cons_self

end

/-! ### Suites -/

/-- **What a test has of its block**: title and place, and whether it is skipped. -/
structure PlacedBlock.Gives (p : PlacedBlock) (t : TestCase) : Prop where
  name_eq : t.name = p.block.title
  span_eq : t.span = p.call.span
  describes_eq : t.describes = p.describes
  skipped_eq : t.skipped =
    (p.skipped || p.block.skipped || p.block.callback.isNone && !p.block.todo)

theorem PlacedBlock.gives_of_read {p : PlacedBlock} {index : Nat} {t : Suite.ReadTest}
    (h : p.read index = .ok t) : p.Gives t.test := by
  rw [read, Suite.readTest, bind_eq_ok] at h
  obtain ⟨calls, -, h⟩ := h
  rw [bind_eq_ok] at h
  obtain ⟨rows, -, h⟩ := h
  obtain rfl := Except.ok.inj h
  exact ⟨rfl, rfl, rfl, rfl⟩

/-- Tests are read off their blocks one by one. -/
theorem forall₂_read {blocks : List PlacedBlock} {first : Nat} {tests : List Suite.ReadTest}
    (h : PlacedBlock.readFrom first blocks = .ok tests) :
    List.Forall₂ (fun p t => ∃ index, p.read index = .ok t) blocks tests := by
  rw [← List.zipIdx_map_fst first blocks, List.forall₂_map_left_iff]
  exact (forall₂_of_mapM h).imp fun p t ht => ⟨p.2, ht⟩

/-- Tests that are read have titles and places of their blocks. -/
theorem forall₂_gives {blocks : List PlacedBlock} {first : Nat} {tests : List Suite.ReadTest}
    (h : PlacedBlock.readFrom first blocks = .ok tests) :
    List.Forall₂ PlacedBlock.Gives blocks (tests.map (·.test)) :=
  List.forall₂_map_right_iff.mpr <|
    (forall₂_read h).imp fun _ _ ⟨_, hRead⟩ => PlacedBlock.gives_of_read hRead

end SuiteAudit
