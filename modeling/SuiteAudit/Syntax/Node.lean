/-!
# Syntax trees

A node of a syntax tree is a label and its children in document order. The label says what the node
is (its kind, and whether the grammar names it), which field of its parent it fills, where it
stands, and the text that it covers. Kinds and fields are those of the grammars, so they are
strings; nothing below assumes that a tree is well formed, since a tree recovered from a syntax
error need not be.
-/

namespace SuiteAudit.Syntax

/-- **A place in a file**, row and column counted from zero. Rows end at line feeds only, and
columns are counted in bytes. -/
structure Point where
  row : Nat := 0
  column : Nat := 0
deriving Repr, DecidableEq, Inhabited

/-- **What a node is apart from its children.** The bytes `first` to `last` (not included) of the
file are its text. A node that fills no field has the empty one. -/
structure Label where
  kind : String
  named : Bool := true
  field : String := ""
  first : Nat := 0
  last : Nat := 0
  start : Point := {}
  stop : Point := {}
  text : String := ""
deriving Repr, DecidableEq, Inhabited

/-- **A node**: its label, and its children in document order. -/
inductive Node where
  | mk (label : Label) (children : List Node)
deriving Repr, Inhabited

namespace Node

/-! ### Parts of a node -/

/-- What the node is apart from its children. -/
def label : Node → Label
  | mk label _ => label

/-- The children in document order. -/
def children : Node → List Node
  | mk _ children => children

/-- The kind of the node. -/
def kind (n : Node) : String :=
  n.label.kind

/-- Whether the grammar names the node. -/
def named (n : Node) : Bool :=
  n.label.named

/-- The field of the parent that the node fills. -/
def field (n : Node) : String :=
  n.label.field

/-- The text that the node covers. -/
def text (n : Node) : String :=
  n.label.text

/-- **The bytes that the node covers**, by which nodes of one file are told apart. -/
def extent (n : Node) : Nat × Nat :=
  (n.label.first, n.label.last)

/-- Whether the node is of one of the kinds. -/
def isOneOf (n : Node) (kinds : List String) : Bool :=
  kinds.contains n.kind

/-- **The child that fills a field**, the first one if there are several. -/
def child? (n : Node) (field : String) : Option Node :=
  n.children.find? (·.field == field)

/-- The children that the grammar names. Comments are among them. -/
def namedChildren (n : Node) : List Node :=
  n.children.filter (·.named)

/-- The named children apart from comments. -/
def operands (n : Node) : List Node :=
  n.namedChildren.filter (·.kind != "comment")

/-! ### Size -/

mutual

/-- **How many nodes a tree has.** -/
def size : Node → Nat
  | mk _ children => 1 + sizeAll children

/-- How many nodes a list of trees has. -/
def sizeAll : List Node → Nat
  | [] => 0
  | c :: rest => c.size + sizeAll rest

end

theorem size_eq (n : Node) : n.size = 1 + sizeAll n.children := by
  cases n; simp [size, children]

theorem size_pos (n : Node) : 0 < n.size := by
  rw [size_eq]; omega

theorem sizeAll_append (xs ys : List Node) : sizeAll (xs ++ ys) = sizeAll xs + sizeAll ys := by
  induction xs with
  | nil => simp [sizeAll]
  | cons x xs ih => simp [sizeAll, ih]; omega

theorem sizeAll_filter_le (p : Node → Bool) (ns : List Node) :
    sizeAll (ns.filter p) ≤ sizeAll ns := by
  induction ns with
  | nil => simp
  | cons n ns ih => by_cases h : p n <;> simp [h, sizeAll] <;> omega

theorem size_le_sizeAll {n : Node} {ns : List Node} (h : n ∈ ns) : n.size ≤ sizeAll ns := by
  induction ns with
  | nil => simp at h
  | cons m ns ih =>
    rcases List.mem_cons.mp h with rfl | h
    · simp [sizeAll]
    · have := ih h
      simp [sizeAll]; omega

theorem size_lt_of_mem {n m : Node} (h : m ∈ n.children) : m.size < n.size := by
  have := size_le_sizeAll h
  rw [size_eq n]; omega

theorem mem_of_child? {n m : Node} {field : String} (h : n.child? field = some m) :
    m ∈ n.children :=
  List.mem_of_find?_eq_some h

theorem size_lt_of_child? {n m : Node} {field : String} (h : n.child? field = some m) :
    m.size < n.size :=
  size_lt_of_mem (mem_of_child? h)

theorem mem_children_of_mem_operands {n m : Node} (h : m ∈ n.operands) : m ∈ n.children :=
  (List.mem_filter.mp (List.mem_filter.mp h).1).1

theorem sizeAll_namedChildren_lt (n : Node) : sizeAll n.namedChildren < n.size := by
  have := sizeAll_filter_le (·.named) n.children
  rw [size_eq n, namedChildren]; omega

end Node

end SuiteAudit.Syntax
