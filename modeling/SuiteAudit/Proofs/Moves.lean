import SuiteAudit.Proofs.AlikeReadings
import SuiteAudit.Proofs.FactSites

/-!
# Trees that move

When text is put in somewhere in a file, the nodes elsewhere move and are the same otherwise
(`Node.moved`). Whether a chain ends at a node is told by the bytes that nodes cover, and the links
of a chain by fields, so what moves has the chains that it had, and they assert what they did
(`chainReadings_moved`).
-/

namespace SuiteAudit

open Syntax

namespace Syntax

/-! ### Nodes that move -/

/-- **How nodes move** when text is put in elsewhere in the file: what covered the same bytes still
does, and nothing else. -/
structure Move where
  extent : Nat × Nat → Nat × Nat
  injective : Function.Injective extent
  start : Point → Point
  stop : Point → Point

/-- A label at its new place. -/
def Label.moved (v : Move) (l : Label) : Label :=
  { l with
    first := (v.extent (l.first, l.last)).1
    last := (v.extent (l.first, l.last)).2
    start := v.start l.start
    stop := v.stop l.stop }

namespace Node

mutual

/-- **A tree at its new place.** -/
def moved (v : Move) : Node → Node
  | .mk label children => .mk (label.moved v) (movedAll v children)

/-- Trees at their new places. -/
def movedAll (v : Move) : List Node → List Node
  | [] => []
  | c :: rest => c.moved v :: movedAll v rest

end

theorem movedAll_eq_map (v : Move) (ns : List Node) : movedAll v ns = ns.map (moved v) := by
  induction ns with
  | nil => rfl
  | cons n ns ih => rw [movedAll, ih, List.map_cons]

section

variable (v : Move) (n : Node)

@[simp] theorem kind_moved : (n.moved v).kind = n.kind := by cases n; rfl
@[simp] theorem named_moved : (n.moved v).named = n.named := by cases n; rfl
@[simp] theorem field_moved : (n.moved v).field = n.field := by cases n; rfl
@[simp] theorem text_moved : (n.moved v).text = n.text := by cases n; rfl
@[simp] theorem extent_moved : (n.moved v).extent = v.extent n.extent := by cases n; rfl

@[simp] theorem children_moved : (n.moved v).children = n.children.map (moved v) := by
  cases n
  exact movedAll_eq_map v _

@[simp] theorem isOneOf_moved (kinds : List String) :
    (n.moved v).isOneOf kinds = n.isOneOf kinds := by
  rw [isOneOf, kind_moved, isOneOf]

@[simp] theorem isAccess_moved : (n.moved v).isAccess = n.isAccess := by
  rw [isAccess, kind_moved, isAccess]

@[simp] theorem compact_moved : (n.moved v).compact = n.compact := by
  rw [compact, text_moved, compact]

@[simp] theorem stringValue?_moved : (n.moved v).stringValue? = n.stringValue? := by
  rw [stringValue?, kind_moved, text_moved, children_moved, List.any_map, stringValue?]
  simp only [Function.comp_def, kind_moved]

theorem child?_moved (field : String) :
    (n.moved v).child? field = (n.child? field).map (moved v) := by
  rw [child?, child?, children_moved, List.find?_map]
  simp only [Function.comp_def, field_moved]

theorem operands_moved : (n.moved v).operands = n.operands.map (moved v) := by
  rw [operands, operands, namedChildren, namedChildren, children_moved, List.filter_map,
    List.filter_map]
  simp only [Function.comp_def, named_moved, kind_moved]

@[simp] theorem propertyName_moved : (n.moved v).propertyName = n.propertyName := by
  have text_eq : (n.moved v).childText "property" = n.childText "property" := by
    rw [childText, childText, child?_moved, Option.map_map]
    congr 2
    exact funext (text_moved v)
  have index_eq : (n.moved v).indexName = n.indexName := by
    rw [indexName, indexName, child?_moved]
    cases n.child? "index" with
    | none => rfl
    | some index => rw [Option.map_some]; simp only [stringValue?_moved, compact_moved]
  rw [propertyName, propertyName, kind_moved, text_eq, index_eq]

end

end Node

/-! ### Links by fields -/

namespace Node

/-- The links of a node that may be missing. -/
def linksOf (n : Option Node) : List Link :=
  (n.map links).getD []

theorem objectLinks_eq (children : List Node) :
    objectLinks children = linksOf (fieldOf? "object" children) := by
  induction children with
  | nil => rfl
  | cons c rest ih =>
    rw [objectLinks, fieldOf?, List.find?_cons]
    cases hc : c.field == "object" with
    | true => rfl
    | false =>
      rw [if_neg Bool.false_ne_true, ih]
      rfl

/-- **The links of an access** are those of its object and its own. -/
theorem links_of_isAccess {n : Node} (h : n.isAccess = true) :
    n.links = linksOf (n.child? "object") ++ [{ name := n.propertyName }] := by
  obtain ⟨label, children⟩ := n
  have not_call : (label.kind == "call_expression") = false := by
    have access : (label.kind == "member_expression" || label.kind == "subscript_expression") =
        true := h
    by_contra hCall
    rw [Bool.not_eq_false, beq_iff_eq] at hCall
    rw [hCall] at access
    exact absurd access (by decide)
  rw [links]
  simp only [not_call, h, if_true, Bool.false_eq_true, if_false, objectLinks_eq]
  rfl

/-- The link of what a call calls. -/
def calledName (callee : Node) : Text :=
  if callee.isAccess then callee.propertyName
  else if callee.kind == "identifier" then callee.text
  else ""

theorem calleeLinks_eq (args : Option Node) (children : List Node) :
    calleeLinks args children = match fieldOf? "function" children with
      | none => []
      | some callee =>
        (if callee.isAccess then linksOf (callee.child? "object") else []) ++
          [{ name := callee.calledName, args }] := by
  induction children with
  | nil => rfl
  | cons c rest ih =>
    obtain ⟨label, children⟩ := c
    rw [calleeLinks, fieldOf?, List.find?_cons]
    cases hField : (Node.mk label children).field == "function" with
    | false =>
      have unlike : (label.field == "function") = false := hField
      rw [unlike, if_neg Bool.false_ne_true, ih]
      rfl
    | true =>
      have alike : (label.field == "function") = true := hField
      rw [alike, if_pos rfl]
      dsimp only
      rw [calledName, objectLinks_eq]
      cases (Node.mk label children).isAccess with
      | true => rfl
      | false =>
        cases hKind : label.kind == "identifier" <;> simp [kind, Node.label, hKind, text]

/-- **The links of a call** are those of the object of what it calls, and that itself. -/
theorem links_of_call {n : Node} (h : n.kind = "call_expression") :
    n.links = match n.child? "function" with
      | none => []
      | some callee =>
        (if callee.isAccess then linksOf (callee.child? "object") else []) ++
          [{ name := callee.calledName, args := n.child? "arguments" }] := by
  obtain ⟨label, children⟩ := n
  have hKind : (label.kind == "call_expression") = true := beq_iff_eq.mpr h
  rw [links]
  simp only [hKind, if_true]
  exact calleeLinks_eq _ children

/-- The link of what stands at the root of a chain, if it is not called. -/
def rootName (n : Node) : Text :=
  if n.isOneOf ["identifier", "this"] then n.text else ""

/-- What is neither called nor accessed is a single link that passes nothing on. -/
theorem links_of_other {n : Node} (hCall : n.kind ≠ "call_expression")
    (hAccess : n.isAccess = false) : n.links = [{ name := n.rootName }] := by
  obtain ⟨label, children⟩ := n
  have not_call : (label.kind == "call_expression") = false := beq_eq_false_iff_ne.mpr hCall
  rw [links, rootName]
  simp only [not_call, hAccess, Bool.false_eq_true, if_false]
  split <;> rfl

/-- A link at its new place. -/
def movedLink (v : Move) (link : Link) : Link :=
  { link with args := link.args.map (moved v) }

@[simp] theorem calledName_moved (v : Move) (n : Node) :
    (n.moved v).calledName = n.calledName := by
  rw [calledName, isAccess_moved, propertyName_moved, kind_moved, text_moved, calledName]

@[simp] theorem rootName_moved (v : Move) (n : Node) : (n.moved v).rootName = n.rootName := by
  rw [rootName, isOneOf_moved, text_moved, rootName]

/-- **The links of a chain move with it.** -/
theorem links_moved (v : Move) : ∀ n : Node, (n.moved v).links = n.links.map (movedLink v)
  | n => by
    have object (k : Node) (hSize : k.size ≤ n.size) : linksOf ((k.moved v).child? "object") =
        (linksOf (k.child? "object")).map (movedLink v) := by
      rw [child?_moved]
      cases hObject : k.child? "object" with
      | none => rfl
      | some o =>
        have := Nat.lt_of_lt_of_le (size_lt_of_child? hObject) hSize
        exact links_moved v o
    -- A call goes on with the object of what it calls, two levels down, hence the sizes.
    by_cases hAccess : n.isAccess = true
    · rw [links_of_isAccess hAccess, links_of_isAccess (by rwa [isAccess_moved]),
        object n (Nat.le_refl _), propertyName_moved, List.map_append]
      rfl
    · rw [Bool.not_eq_true] at hAccess
      by_cases hCall : n.kind = "call_expression"
      · rw [links_of_call hCall, links_of_call (by rwa [kind_moved]), child?_moved, child?_moved]
        cases hCallee : n.child? "function" with
        | none => rfl
        | some callee =>
          simp only [Option.map_some, isAccess_moved, calledName_moved]
          rw [object callee (Nat.le_of_lt (size_lt_of_child? hCallee))]
          cases callee.isAccess <;> simp [movedLink] <;> rfl
      · rw [links_of_other hCall hAccess,
          links_of_other (by rwa [kind_moved]) (by rwa [isAccess_moved]), rootName_moved]
        rfl
termination_by n => n.size

end Node

/-! ### Nodes that take the place of others -/

/-- **A node that takes the place of another one** and is of the same kind, or hands back what was a
statement of its own. -/
structure ReplacedBy (v : Move) (c d : Node) : Prop where
  named_eq : d.named = c.named
  field_eq : d.field = c.field
  extent_eq : d.extent = v.extent c.extent
  kind_cases : d.kind = c.kind ∨ c.kind = "expression_statement" ∧ d.kind = "return_statement"

theorem replacedBy_moved (v : Move) (c : Node) : ReplacedBy v c (c.moved v) :=
  ⟨c.named_moved v, c.field_moved v, c.extent_moved v, .inl (c.kind_moved v)⟩

theorem forall₂_moved (v : Move) (ns : List Node) :
    List.Forall₂ (ReplacedBy v) ns (ns.map (·.moved v)) :=
  List.forall₂_map_right_iff.mpr (List.forall₂_same.mpr fun c _ => replacedBy_moved v c)

/-- Kinds other than those of the two statements are the same. -/
theorem ReplacedBy.kind_beq {v : Move} {c d : Node} (h : ReplacedBy v c d) {kind : String}
    (hKind : kind ∉ ["expression_statement", "return_statement"]) :
    (d.kind == kind) = (c.kind == kind) := by
  have unlike : kind ≠ "expression_statement" ∧ kind ≠ "return_statement" := by simpa using hKind
  rcases h.kind_cases with same | ⟨hc, hd⟩
  · rw [same]
  · rw [hc, hd, beq_eq_false_iff_ne.mpr unlike.1.symm, beq_eq_false_iff_ne.mpr unlike.2.symm]

/-- **What fills a field** takes the place of what filled it. -/
theorem rel_find?_field {S : Node → Node → Prop} (hField : ∀ c d, S c d → d.field = c.field)
    {cs ds : List Node} (h : List.Forall₂ S cs ds) (field : String) :
    Option.Rel (fun c d => S c d ∧ c.field = field) (cs.find? (·.field == field))
      (ds.find? (·.field == field)) := by
  induction h with
  | nil => exact .none
  | @cons c d cs ds hc _ ih =>
    rw [List.find?_cons, List.find?_cons, hField c d hc]
    cases hFills : c.field == field with
    | true => exact .some ⟨hc, eq_of_beq hFills⟩
    | false => exact ih

end Syntax

/-! ### Chains that move -/

/-- **An assertion apart from its place**: without its span, and whether it is waited for or stands
in a catch clause. -/
def Assertion.plain (a : Assertion) : Assertion :=
  { a with span := .of 1, awaited := false, inCatch := false }

/-- **What the chain that ends at a node asserts.** -/
def Syntax.Node.asserted (n : Node) : List Assertion :=
  (Reading.ofLinks n.links).assertions.map Assertion.plain

namespace Body

/-- **What a body asserts**, apart from places. -/
def told (b : Body) : List Assertion :=
  b.assertions.map Assertion.plain

/-- **Whether a chain ends at a node** does not depend on where the node stands. -/
theorem isChain_of_replacedBy {v : Move} {n m c d : Node} {above others : List Node}
    (hKind : m.kind = n.kind) (hChildren : List.Forall₂ (ReplacedBy v) n.children m.children)
    (h : ReplacedBy v c d) : isChain ⟨d, m :: others⟩ = isChain ⟨c, n :: above⟩ := by
  -- The node is known in its parent by the bytes it covers, and a move keeps those apart.
  have filled (field : String) : (m.child? field).any (·.extent == d.extent) =
      (n.child? field).any (·.extent == c.extent) := by
    have same := rel_find?_field (fun _ _ h => h.field_eq) hChildren field
    rw [Node.child?, Node.child?]
    generalize n.children.find? (·.field == field) = x, m.children.find? (·.field == field) = y
      at same
    cases same with
    | none => rfl
    | some same =>
      rw [Option.any_some, Option.any_some, same.1.extent_eq, h.extent_eq, Bool.eq_iff_iff,
        beq_iff_eq, beq_iff_eq, v.injective.eq_iff]
  have ends : Located.endsChain ⟨d, m :: others⟩ = Located.endsChain ⟨c, n :: above⟩ := by
    unfold Located.endsChain Node.isAccess
    simp only [Located.parent?, List.head?_cons, hKind, filled]
  have parent : Located.parentIsOneOf ⟨d, m :: others⟩ ["expression_statement"] =
      Located.parentIsOneOf ⟨c, n :: above⟩ ["expression_statement"] := by
    simp only [Located.parentIsOneOf, Located.parent?, List.head?_cons, Option.any_some,
      Node.isOneOf, hKind]
  rw [isChain, isChain, ends, parent]
  dsimp only
  rw [h.kind_beq (by decide), h.kind_beq (by decide)]

/-- **Whether chains go on through a node.** -/
def goesOn (n : Node) : Bool :=
  n.isAccess || n.kind == "call_expression"

theorem goesOn_eq_false {n : Node} {kind : String} (h : n.kind = kind)
    (hKind : kind ∉ ["member_expression", "subscript_expression", "call_expression"]) :
    goesOn n = false := by
  simpa [goesOn, Node.isAccess, h, and_assoc] using hKind

/-- **Where chains do not go on**, every call ends one, and every access does that is a statement of
its own. -/
theorem isChain_of_parent {n parent : Node} {above : List Node} (h : goesOn parent = false) :
    isChain ⟨n, parent :: above⟩ = (n.kind == "call_expression" ||
      n.kind == "member_expression" && parent.kind == "expression_statement") := by
  rw [goesOn, Bool.or_eq_false_iff] at h
  have ends : Located.endsChain ⟨n, parent :: above⟩ = true := by
    unfold Located.endsChain
    simp only [Located.parent?, List.head?_cons, h.1, h.2, Bool.false_eq_true, if_false]
  have statement : Located.parentIsOneOf ⟨n, parent :: above⟩ ["expression_statement"] =
      (parent.kind == "expression_statement") := by
    simp only [Located.parentIsOneOf, Located.parent?, List.head?_cons, Option.any_some,
      Node.isOneOf, List.contains_cons, List.contains_nil, Bool.or_false]
  rw [isChain, ends, Bool.true_and, statement]

/-- **What the chains among places assert**, one by one. -/
def chainReadings (places : List Located) : List (List Assertion) :=
  (places.filter isChain).map fun l => l.node.asserted

/-- What the chains of trees assert. -/
def readingsBelow (above ns : List Node) : List (List Assertion) :=
  ns.flatMap fun c => chainReadings (c.places above)

/-- What a node asserts if a chain ends there. -/
def ownReading (n : Node) (above : List Node) : List (List Assertion) :=
  if isChain ⟨n, above⟩ then [n.asserted] else []

theorem told_eq (b : Body) : b.told = (chainReadings b.places).flatten := by
  rw [told, assertions, chainReadings, List.map_flatMap, ← List.flatMap_def]
  induction b.places with
  | nil => rfl
  | cons l places ih =>
    rw [List.flatMap_cons, ih, List.filter_cons, assertionsAt, readingAt, List.map_map]
    cases isChain l <;> rfl

/-- **What the chains of a tree assert**: that at its root, then those below. -/
theorem chainReadings_places (n : Node) (above : List Node) :
    chainReadings (n.places above) =
      ownReading n above ++ readingsBelow (n :: above) n.children := by
  have below (ns : List Node) : chainReadings (placesAll (n :: above) ns) =
      readingsBelow (n :: above) ns := by
    induction ns with
    | nil => rfl
    | cons c ns ih =>
      rw [placesAll, chainReadings, List.filter_append, List.map_append, ← chainReadings,
        ← chainReadings, ih]
      rfl
  rw [Node.places_eq_cons, chainReadings, List.filter_cons, ← below, ownReading]
  cases isChain ⟨n, above⟩ <;> rfl

theorem readingsBelow_cons (above : List Node) (c : Node) (ns : List Node) :
    readingsBelow above (c :: ns) = chainReadings (c.places above) ++ readingsBelow above ns :=
  List.flatMap_cons

/-- What is neither a call nor an access asserts nothing. -/
theorem ownReading_eq_nil {n : Node} {above : List Node} {kind : String} (h : n.kind = kind)
    (hKind : kind ∉ ["member_expression", "call_expression"]) : ownReading n above = [] := by
  have not_chain : kind ≠ "member_expression" ∧ kind ≠ "call_expression" := by simpa using hKind
  rw [ownReading, isChain, h]
  simp [not_chain]

/-- A chain asserts the same at its new place. -/
theorem asserted_moved (v : Move) (n : Node) : (n.moved v).asserted = n.asserted := by
  refine congrArg (List.map Assertion.plain) ?_
  rw [Node.links_moved]
  refine Reading.assertions_ofLinks_eq (List.forall₂_map_right_iff.mpr ?_)
  refine List.forall₂_same.mpr fun link _ => ⟨rfl, ?_⟩
  rw [Node.movedLink]
  cases link.args with
  | none => exact .none
  | some args =>
    refine .some ⟨?_, ?_⟩
    · rw [List.forall₂_eq_eq_eq, Reading.texts, Reading.texts, Node.operands_moved, List.map_map]
      exact List.map_congr_left fun n _ => (n.compact_moved v).symm
    · rw [Reading.chainer?, Reading.chainer?, Node.operands_moved, List.head?_map]
      cases args.operands.head? with
      | none => rfl
      | some first => exact first.stringValue?_moved v

/-- **The chains of a tree assert the same at its new place.** -/
theorem chainReadings_moved (v : Move) : ∀ {n : Node} {above others : List Node},
    isChain ⟨n.moved v, others⟩ = isChain ⟨n, above⟩ →
      chainReadings ((n.moved v).places others) = chainReadings (n.places above)
  | n, above, others, h => by
    rw [chainReadings_places, chainReadings_places, Node.children_moved]
    congr 1
    · rw [ownReading, ownReading, h, asserted_moved]
    · rw [readingsBelow, readingsBelow, List.flatMap_map]
      refine List.flatMap_congr fun c hc => ?_
      have := Node.size_lt_of_mem hc
      refine chainReadings_moved v
        (isChain_of_replacedBy (n.kind_moved v) ?_ (replacedBy_moved v c))
      rw [Node.children_moved]
      exact forall₂_moved v n.children
termination_by n => n.size

/-- The trees below a node assert the same at their new places. -/
theorem readingsBelow_moved (v : Move) {n m : Node} {above others ns : List Node}
    (h : ∀ c ∈ ns, isChain ⟨c.moved v, m :: others⟩ = isChain ⟨c, n :: above⟩) :
    readingsBelow (m :: others) (ns.map (·.moved v)) = readingsBelow (n :: above) ns := by
  rw [readingsBelow, readingsBelow, List.flatMap_map]
  exact List.flatMap_congr fun c hc => chainReadings_moved v (h c hc)

end Body

end SuiteAudit
