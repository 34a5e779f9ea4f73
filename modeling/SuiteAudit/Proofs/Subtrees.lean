import SuiteAudit.Suite.OfTree

/-!
# Parts of a tree

The nodes of a tree are its root and the nodes of its children (`Node.nodes_eq_cons`), so a part of
a part is a part, and where the bytes of a tree are nested those of a part are bytes of the whole
(`Node.Nested.within`). What the outline of a file goes through are parts of its tree: every block
is opened by a call in the tree (`exists_of_mem_itemsFrom`), and its callback and table are parts of
that call (`mem_nodes_of_ofCall?`).
-/

namespace SuiteAudit

open Syntax

/-! ### Subtrees -/

namespace Syntax

/-- The nodes of a tree do not depend on what is above it. -/
theorem map_node_places (n : Node) (above : List Node) :
    (n.places above).map (·.node) = n.nodes := by
  refine Node.rec (motive_1 := fun n => ∀ above, (n.places above).map (·.node) = n.nodes)
    (motive_2 := fun ns => ∀ above, (placesAll above ns).map (·.node) = ns.flatMap Node.nodes)
    ?_ ?_ ?_ n above
  · intro label children ih above
    rw [Node.nodes, Node.places, Node.places, List.map_cons, List.map_cons, ih, ih]
  · intro above
    rfl
  · intro c rest hc hrest above
    rw [placesAll, List.map_append, hc, hrest, List.flatMap_cons]

theorem map_node_placesAll (above ns : List Node) :
    (placesAll above ns).map (·.node) = ns.flatMap Node.nodes := by
  induction ns with
  | nil => rfl
  | cons n ns ih => rw [placesAll, List.map_append, map_node_places, ih, List.flatMap_cons]

/-- **The nodes of a tree are its root and those of its children.** -/
theorem Node.nodes_eq_cons (n : Node) : n.nodes = n :: n.children.flatMap nodes := by
  rw [nodes, places_eq_cons, List.map_cons, map_node_placesAll]

theorem Node.mem_nodes_self (n : Node) : n ∈ n.nodes := by
  rw [nodes_eq_cons]
  exact List.mem_cons_self

theorem Node.mem_nodes_of_mem_children {k m n : Node} (hk : k ∈ m.nodes) (hm : m ∈ n.children) :
    k ∈ n.nodes := by
  rw [nodes_eq_cons]
  exact List.mem_cons_of_mem n (List.mem_flatMap.mpr ⟨m, hm, hk⟩)

/-- **A subtree of a subtree is a subtree.** -/
theorem Node.mem_nodes_trans {k m : Node} (hk : k ∈ m.nodes) :
    ∀ {n : Node}, m ∈ n.nodes → k ∈ n.nodes
  | n, hm => by
    rw [nodes_eq_cons] at hm
    rcases List.mem_cons.mp hm with rfl | hm
    · exact hk
    · obtain ⟨c, hc, hm⟩ := List.mem_flatMap.mp hm
      have := Node.size_lt_of_mem hc
      exact mem_nodes_of_mem_children (mem_nodes_trans hk hm) hc
termination_by n => n.size

/-- A node that fills a field is a subtree. -/
theorem Node.mem_nodes_of_child? {m n : Node} {field : String} (h : n.child? field = some m) :
    m ∈ n.nodes :=
  mem_nodes_of_mem_children m.mem_nodes_self (mem_of_child? h)

/-! ### Nested bytes -/

/-- **The bytes of a tree are nested**: no node ends before it begins, and its children lie within
it. -/
def Node.Nested (root : Node) : Prop :=
  ∀ n ∈ root.nodes, n.label.first ≤ n.label.last ∧
    ∀ c ∈ n.children, n.label.first ≤ c.label.first ∧ c.label.last ≤ n.label.last

instance (root : Node) : Decidable root.Nested :=
  inferInstanceAs (Decidable (∀ n ∈ root.nodes, n.label.first ≤ n.label.last ∧
    ∀ c ∈ n.children, n.label.first ≤ c.label.first ∧ c.label.last ≤ n.label.last))

theorem Node.Nested.of_mem {n root : Node} (h : root.Nested) (hn : n ∈ root.nodes) : n.Nested :=
  fun m hm => h m (mem_nodes_trans hm hn)

/-- **The bytes of a part are bytes of the whole.** -/
theorem Node.Nested.within {m : Node} : ∀ {n : Node}, n.Nested → m ∈ n.nodes →
    n.label.first ≤ m.label.first ∧ m.label.last ≤ n.label.last
  | n, h, hm => by
    rw [nodes_eq_cons] at hm
    rcases List.mem_cons.mp hm with rfl | hm
    · exact ⟨Nat.le_refl _, Nat.le_refl _⟩
    · obtain ⟨c, hc, hm⟩ := List.mem_flatMap.mp hm
      have := Node.size_lt_of_mem hc
      have child := h.of_mem (mem_nodes_of_mem_children c.mem_nodes_self hc)
      have inside := (h n n.mem_nodes_self).2 c hc
      have below := child.within hm
      exact ⟨Nat.le_trans inside.1 below.1, Nat.le_trans below.2 inside.2⟩
termination_by n => n.size

end Syntax

/-! ### Parts of calls -/

theorem mem_nodes_of_mem_operands {m n : Node} (h : m ∈ n.operands) : m ∈ n.nodes :=
  Node.mem_nodes_of_mem_children m.mem_nodes_self (Node.mem_children_of_mem_operands h)

theorem mem_nodes_of_mem_arguments {m call : Node} (h : m ∈ call.arguments) : m ∈ call.nodes := by
  unfold Node.arguments at h
  cases hArgs : call.child? "arguments" with
  | none => simp [hArgs] at h
  | some args =>
    rw [hArgs] at h
    exact Node.mem_nodes_trans (mem_nodes_of_mem_operands h) (Node.mem_nodes_of_child? hArgs)

theorem mem_nodes_of_naming? {call table : Node} {naming : Block.Naming}
    (h : Block.naming? call = some naming) (hTable : naming.table = some table) :
    table ∈ call.nodes := by
  unfold Block.naming? at h
  simp only [Option.bind_eq_bind, Option.bind_eq_some_iff] at h
  obtain ⟨callee, hCallee, h⟩ := h
  split at h
  · simp only [Option.bind_eq_some_iff] at h
    obtain ⟨inner, -, path, -, h⟩ := h
    split at h
    · obtain rfl := Option.some.inj h
      exact Node.mem_nodes_trans (Node.mem_nodes_of_child? hTable)
        (Node.mem_nodes_of_child? hCallee)
    · cases h
  · simp only [Option.bind_eq_some_iff] at h
    obtain ⟨path, -, h⟩ := h
    split at h
    · cases h
    · obtain rfl := Option.some.inj h
      cases hTable

/-- **The callback and the table of a block are parts of the call that opens it.** -/
theorem mem_nodes_of_ofCall? {call : Node} {b : Block} (h : Block.ofCall? call = some b) :
    (∀ n, b.callback = some n → n ∈ call.nodes) ∧ ∀ n, b.table = some n → n ∈ call.nodes := by
  unfold Block.ofCall? at h
  simp only [Option.bind_eq_bind, Option.bind_eq_some_iff] at h
  obtain ⟨naming, hNaming, opening, -, h⟩ := h
  split at h
  · unfold Block.hook? at h
    split at h
    · obtain rfl := Option.some.inj h
      exact ⟨fun n hn => mem_nodes_of_mem_arguments (Outline.mem_of_callbackOf hn),
        fun n hn => by cases hn⟩
    · cases h
  · unfold Block.titled? at h
    split at h
    · obtain rfl := Option.some.inj h
      exact ⟨fun n hn => mem_nodes_of_mem_arguments
        (List.mem_of_mem_tail (Outline.mem_of_callbackOf hn)), fun n hn =>
          mem_nodes_of_naming? hNaming hn⟩
    · cases h

/-! ### The outline -/

/-- The statements of a body are parts of it. -/
theorem mem_nodes_of_mem_statements {body n : Node} (h : n ∈ Outline.statements body) :
    n ∈ body.nodes := by
  unfold Outline.statements at h
  split at h
  · exact Node.mem_nodes_of_mem_children n.mem_nodes_self (List.mem_filter.mp h).1
  · rw [List.mem_singleton.mp h]
    exact body.mem_nodes_self

/-- What is looked at below a block is a part of the call that opens it. -/
theorem mem_nodes_of_mem_below {call n : Node} {b : Block} (h : Block.ofCall? call = some b)
    (hn : n ∈ Outline.below b) : n ∈ call.nodes := by
  unfold Outline.below at hn
  split at hn
  · next body hKind hBody =>
    obtain ⟨callback, hCallback, hBody⟩ := Option.bind_eq_some_iff.mp hBody
    have body_mem : body ∈ call.nodes :=
      Node.mem_nodes_trans (Node.mem_nodes_of_child? hBody)
        ((mem_nodes_of_ofCall? h).1 _ hCallback)
    exact Node.mem_nodes_trans (mem_nodes_of_mem_statements hn) body_mem
  · cases hn

theorem ofCall?_of_block? {n : Node} {b : Block} (h : Outline.block? n = some b) :
    Block.ofCall? n = some b := by
  unfold Outline.block? at h
  split at h
  · exact h
  · cases h

/-- **Every block of the outline is opened by a call in the tree.** -/
theorem exists_of_mem_itemsFrom {todo : List Outline.Pending} {b : Block} {call : Node}
    {place : Place} (h : Item.block b call place ∈ Outline.itemsFrom todo) :
    Block.ofCall? call = some b ∧ ∃ p ∈ todo, call ∈ p.node.nodes := by
  fun_induction Outline.itemsFrom todo with
  | case1 => cases h
  | case2 n p todo b' hBlock ih =>
    have opened := ofCall?_of_block? hBlock
    rcases List.mem_cons.mp h with h | h
    · obtain ⟨rfl, rfl, rfl⟩ := Item.block.inj h
      exact ⟨opened, _, List.mem_cons_self, call.mem_nodes_self⟩
    · obtain ⟨hCall, q, hq, hMem⟩ := ih h
      refine ⟨hCall, ?_⟩
      rcases List.mem_append.mp hq with hq | hq
      · obtain ⟨m, hm, rfl⟩ := List.mem_map.mp hq
        exact ⟨_, List.mem_cons_self, Node.mem_nodes_trans hMem (mem_nodes_of_mem_below opened hm)⟩
      · exact ⟨q, List.mem_cons_of_mem _ hq, hMem⟩
  | case3 n p todo hBlock ih =>
    rcases List.mem_append.mp h with h | h
    · unfold Outline.itemsOf at h
      split at h
      · simp at h
      · split at h <;> simp at h
    · obtain ⟨hCall, q, hq, hMem⟩ := ih h
      refine ⟨hCall, ?_⟩
      rcases List.mem_append.mp hq with hq | hq
      · obtain ⟨m, hm, rfl⟩ := List.mem_map.mp hq
        exact ⟨_, List.mem_cons_self, Node.mem_nodes_of_mem_children hMem hm⟩
      · exact ⟨q, List.mem_cons_of_mem _ hq, hMem⟩

end SuiteAudit
