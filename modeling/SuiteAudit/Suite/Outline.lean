import SuiteAudit.Suite.Block

/-!
# The outline of a test file

The blocks of a file in document order, each with the describe blocks around it, and beside them the
declarations that tests share and the calls outside every test and hook. Below a describe call only
the body of its callback is looked at; below a test or hook nothing is, for its body is read on its
own.
-/

namespace SuiteAudit

open Syntax

/-- **Where a node stands**: the titles of the describe blocks around it, whether one of them is
skipped, and whether it is a statement of the file or of a describe block itself. -/
structure Place where
  describes : List Text := []
  skipped : Bool := false
  topLevel : Bool := true
deriving Repr, DecidableEq, Inhabited

namespace Place

/-- The place of a child of an ordinary node. -/
def inner (p : Place) : Place :=
  { p with topLevel := false }

/-- The place of a statement of a describe block. -/
def inside (p : Place) (b : Block) : Place :=
  { describes := p.describes ++ [b.title], skipped := p.skipped || b.skipped }

end Place

/-- **An entry of the outline.** -/
inductive Item where
  /-- A describe block, test or hook, and the call that it is. -/
  | block (b : Block) (call : Node) (place : Place)
  /-- A call that is no block. -/
  | call (node : Node)
  /-- A declaration at the top of the file or of a describe block. -/
  | declaration (node : Node) (describes : List Text)
deriving Inhabited

namespace Outline

/-- The kinds of node that declare variables. -/
def declarationKinds : List String :=
  ["lexical_declaration", "variable_declaration"]

/-- The block that a node opens. -/
def block? (n : Node) : Option Block :=
  if n.kind == "call_expression" then Block.ofCall? n else none

/-- The statements of a body; a body that is an expression is its own statement. -/
def statements (body : Node) : List Node :=
  if body.kind == "statement_block" then body.namedChildren else [body]

/-- What is to be looked at below a block. -/
def below (b : Block) : List Node :=
  match b.kind, b.body? with
  | .describe, some body => statements body
  | _, _ => []

/-- The items of a node that opens no block. -/
def itemsOf (n : Node) (p : Place) : List Item :=
  if n.kind == "call_expression" then [.call n]
  else if p.topLevel && n.isOneOf declarationKinds then [.declaration n p.describes]
  else []

/-! ### Going down makes trees smaller -/

theorem sizeAll_statements_le (body : Node) : Node.sizeAll (statements body) ≤ body.size := by
  unfold statements
  split
  · exact Nat.le_of_lt body.sizeAll_namedChildren_lt
  · simp [Node.sizeAll]

theorem mem_arguments_size_lt {call n : Node} (h : n ∈ call.arguments) : n.size < call.size := by
  unfold Node.arguments at h
  cases hc : call.child? "arguments" with
  | none => simp [hc] at h
  | some args =>
    rw [hc] at h
    exact Nat.lt_trans (Node.size_lt_of_mem (Node.mem_children_of_mem_operands h))
      (Node.size_lt_of_child? hc)

theorem mem_of_callbackOf {arguments : List Node} {n : Node}
    (h : Block.callbackOf arguments = some n) : n ∈ arguments :=
  (List.mem_filter.mp (List.mem_of_getLast? h)).1

/-- **A callback is smaller than the call that it is passed to.** -/
theorem callback_size_lt {call callback : Node} {b : Block} (h : Block.ofCall? call = some b)
    (hc : b.callback = some callback) : callback.size < call.size := by
  have key : callback ∈ call.arguments := by
    unfold Block.ofCall? at h
    simp only [Option.bind_eq_bind, Option.bind_eq_some_iff] at h
    obtain ⟨naming, -, opening, -, h⟩ := h
    split at h
    · unfold Block.hook? at h
      split at h
      · obtain rfl := Option.some.inj h
        exact mem_of_callbackOf hc
      · simp at h
    · unfold Block.titled? at h
      split at h
      · obtain rfl := Option.some.inj h
        exact List.mem_of_mem_tail (mem_of_callbackOf hc)
      · simp at h
  exact mem_arguments_size_lt key

theorem sizeAll_below_lt {n : Node} {b : Block} (h : block? n = some b) :
    Node.sizeAll (below b) < n.size := by
  unfold block? at h
  split at h
  · unfold below
    split
    · next body hk hb =>
      unfold Block.body? at hb
      obtain ⟨callback, hc, hb⟩ := Option.bind_eq_some_iff.mp hb
      have h1 := callback_size_lt h hc
      have h2 := Node.size_lt_of_child? hb
      have h3 := sizeAll_statements_le body
      omega
    · simpa [Node.sizeAll] using n.size_pos
  · simp at h

/-! ### The outline -/

/-- A node that is still to be looked at, and where it stands. -/
structure Pending where
  node : Node
  place : Place
deriving Inhabited

/-- How many nodes are still to be looked at. -/
def remaining (todo : List Pending) : Nat :=
  Node.sizeAll (todo.map (·.node))

/-- The nodes at one place. -/
def pendingAt (p : Place) (nodes : List Node) : List Pending :=
  nodes.map fun node => { node, place := p }

theorem remaining_cons (n : Node) (p : Place) (todo : List Pending) :
    remaining (⟨n, p⟩ :: todo) = n.size + remaining todo := by
  simp [remaining, Node.sizeAll]

theorem remaining_append (xs ys : List Pending) :
    remaining (xs ++ ys) = remaining xs + remaining ys := by
  simp [remaining, Node.sizeAll_append]

theorem remaining_pendingAt (p : Place) (nodes : List Node) :
    remaining (pendingAt p nodes) = Node.sizeAll nodes := by
  simp [remaining, pendingAt, List.map_map, Function.comp_def]

/-- **The items of the nodes still to be looked at**, in document order. What lies below a node
comes before what follows it. -/
def itemsFrom : List Pending → List Item
  | [] => []
  | ⟨n, p⟩ :: todo =>
    match _h : block? n with
    | some b => .block b n p :: itemsFrom (pendingAt (p.inside b) (below b) ++ todo)
    | none => itemsOf n p ++ itemsFrom (pendingAt p.inner n.children ++ todo)
termination_by todo => remaining todo
decreasing_by
  · have := sizeAll_below_lt _h
    rw [remaining_append, remaining_pendingAt, remaining_cons]
    omega
  · have := n.size_eq
    rw [remaining_append, remaining_pendingAt, remaining_cons]
    omega

end Outline

/-- **The outline of a file** with this tree. -/
def outline (root : Node) : List Item :=
  Outline.itemsFrom (Outline.pendingAt {} root.children)

end SuiteAudit
