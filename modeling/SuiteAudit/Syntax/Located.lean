import SuiteAudit.Syntax.Node

/-!
# Places in a tree

A place is a node together with the nodes above it, so that one can look up as well as down. Walking
a tree lists its places in document order, every node before its children.
-/

namespace SuiteAudit.Syntax

/-- **A node and the nodes above it**, its parent first. -/
structure Located where
  node : Node
  above : List Node := []
deriving Inhabited

mutual

/-- The places of a tree in document order; `above` are the nodes above its root. -/
def Node.places (above : List Node) : Node → List Located
  | .mk label children =>
    ⟨.mk label children, above⟩ :: placesAll (.mk label children :: above) children

/-- The places of a list of trees in document order. -/
def placesAll (above : List Node) : List Node → List Located
  | [] => []
  | c :: rest => c.places above ++ placesAll above rest

end

namespace Located

/-- The nearest node above. -/
def parent? (l : Located) : Option Node :=
  l.above.head?

/-- Whether the parent is of one of the kinds. -/
def parentIsOneOf (l : Located) (kinds : List String) : Bool :=
  l.parent?.any (·.isOneOf kinds)

/-- The places of a list of nodes of which each lies below the next. -/
def chain : List Node → List Located
  | [] => []
  | n :: above => ⟨n, above⟩ :: chain above

/-- **The places above**, the parent's first. -/
def ancestors (l : Located) : List Located :=
  chain l.above

/-- The nodes above that lie below the first one of which `stop` holds. -/
def aboveUntil (l : Located) (stop : Node → Bool) : List Node :=
  l.above.takeWhile fun n => !stop n

/-- **The places of the tree below**, this one first, in document order. -/
def places (l : Located) : List Located :=
  l.node.places l.above

end Located

/-- The nodes of a tree in document order. -/
def Node.nodes (n : Node) : List Node :=
  (n.places []).map (·.node)

/-- The first place of a tree is that of its root. -/
theorem Node.places_eq_cons (above : List Node) (n : Node) :
    n.places above = ⟨n, above⟩ :: placesAll (n :: above) n.children := by
  cases n; simp [places, children]

/-- A tree has as many places as nodes. -/
theorem length_places (above : List Node) (n : Node) : (n.places above).length = n.size := by
  refine Node.rec (motive_1 := fun n => ∀ above, (n.places above).length = n.size)
    (motive_2 := fun ns => ∀ above, (placesAll above ns).length = Node.sizeAll ns)
    ?_ ?_ ?_ n above
  · intro label children ih above
    simp [Node.places, Node.size, ih]; omega
  · intro above
    simp [placesAll, Node.sizeAll]
  · intro c rest hc hrest above
    simp [placesAll, Node.sizeAll, hc, hrest]

end SuiteAudit.Syntax
