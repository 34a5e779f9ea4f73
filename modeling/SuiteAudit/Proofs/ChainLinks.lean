import Mathlib.Data.List.Pairwise
import SuiteAudit.Proofs.Moves
import SuiteAudit.Proofs.Unfocused

/-!
# Chains and their links

A chain grows from a name, link by link: each link accesses a property of what stands before it, as
a member or by a string between brackets, and may be called at once (`ChainOf`). Flattening a chain
gives its links back (`ChainOf.links_eq`), and its path is their names where none is called
(`ChainOf.path?_eq`). Where a chain ends is told by the extents of nodes; where the children of a
node share no bytes, it ends exactly where nothing goes on with it (`endsChain_iff`). What stands
on the way from its end to its root are shorter chains, none of which ends there
(`chain_flattened`).
-/

namespace SuiteAudit.Syntax

/-! ### Growing chains -/

namespace Node

/-- **A string whose content is a text**: the text stands between two marks. A template is one too
if nothing is substituted in it. -/
structure IsQuoted (n : Node) (content : Text) : Prop where
  kind_cases : n.kind = "string" ∨
    n.kind = "template_string" ∧ ∀ c ∈ n.children, c.kind ≠ "template_substitution"
  text_eq : ∃ mark, (n.text : Text).points = mark :: content.points ++ [mark]

/-- **An access to a property of an object**: to a member of that name, or to that name as a string
between brackets. -/
structure Accesses (n object : Node) (name : Text) : Prop where
  object_eq : n.child? "object" = some object
  names : (n.kind = "member_expression" ∧
      ∃ property, n.child? "property" = some property ∧ (property.text : Text) = name) ∨
    n.kind = "subscript_expression" ∧ ∃ index, n.child? "index" = some index ∧ index.IsQuoted name

/-- A call of a node with an argument list. -/
structure Calls (n callee args : Node) : Prop where
  kind_eq : n.kind = "call_expression"
  callee_eq : n.child? "function" = some callee
  args_eq : n.child? "arguments" = some args

/-- The node takes up some bytes, unlike one that a parser puts where a name is missing. -/
def IsWritten (n : Node) : Prop :=
  n.label.first < n.label.last

end Node

/-- **A chain and its links**, in the order in which they are written. Its root is a name or `this`,
and a name may be called; every further link accesses a property of the chain before it and may be
called too. -/
inductive ChainOf : Node → List Link → Prop where
  | name {n : Node} (hKind : n.kind = "identifier" ∨ n.kind = "this") (written : n.IsWritten) :
      ChainOf n [{ name := n.text }]
  | calledName {n callee args : Node} (call : n.Calls callee args)
      (hKind : callee.kind = "identifier") (written : callee.IsWritten) :
      ChainOf n [{ name := callee.text, args := some args }]
  | access {n object : Node} {links : List Link} {name : Text} (before : ChainOf object links)
      (access : n.Accesses object name) : ChainOf n (links ++ [{ name := name }])
  | call {n callee object args : Node} {links : List Link} {name : Text}
      (before : ChainOf object links) (access : callee.Accesses object name)
      (call : n.Calls callee args) : ChainOf n (links ++ [{ name, args := some args }])

/-! ### Links and paths -/

namespace Node

section

variable {n object callee args : Node} {name content : Text}

theorem IsQuoted.stringValue?_eq (h : n.IsQuoted content) : n.stringValue? = some content := by
  obtain ⟨mark, text_eq⟩ := h.text_eq
  have inner_eq : Text.inner n.text = content := by
    rw [Text.inner, Text.through, text_eq, List.cons_append, List.tail_cons, List.dropLast_concat]
  rw [stringValue?]
  rcases h.kind_cases with hKind | ⟨hKind, plain⟩
  · rw [hKind, if_pos (by decide), inner_eq]
  · have not_substituted : n.children.any (·.kind == "template_substitution") = false := by
      simpa using plain
    rw [hKind, if_neg (by decide), if_pos (by decide), not_substituted, inner_eq]
    rfl

theorem Accesses.isAccess (h : n.Accesses object name) : n.isAccess = true := by
  rw [Node.isAccess]
  rcases h.names with ⟨hKind, -⟩ | ⟨hKind, -⟩ <;> rw [hKind] <;> rfl

theorem Accesses.propertyName_eq (h : n.Accesses object name) : n.propertyName = name := by
  rw [propertyName]
  rcases h.names with ⟨hKind, property, hProperty, rfl⟩ | ⟨hKind, index, hIndex, quoted⟩
  · rw [hKind, if_pos (by decide), childText, hProperty]
    rfl
  · rw [hKind, if_neg (by decide), if_pos (by decide), indexName, hIndex]
    dsimp only
    rw [quoted.stringValue?_eq, Option.getD_some]

theorem Accesses.fixedProperty?_eq (h : n.Accesses object name) :
    n.fixedProperty? = some name := by
  rw [fixedProperty?]
  rcases h.names with ⟨hKind, property, hProperty, rfl⟩ | ⟨hKind, index, hIndex, quoted⟩
  · rw [hKind, if_pos (by decide), childText, hProperty]
    rfl
  · rw [hKind, if_neg (by decide), if_pos (by decide), hIndex, Option.bind_some,
      quoted.stringValue?_eq]

theorem objectPath?_eq (children : List Node) :
    objectPath? children =
      match fieldOf? "object" children with
      | none => some []
      | some object => object.path? := by
  induction children with
  | nil => rfl
  | cons c rest ih =>
    rw [objectPath?, fieldOf?, List.find?_cons]
    cases hc : c.field == "object" with
    | true => rfl
    | false =>
      rw [if_neg Bool.false_ne_true, ih]
      rfl

/-- The path of an access is that of its object and its own name. -/
theorem Accesses.path?_eq (h : n.Accesses object name) :
    n.path? = object.path?.map (· ++ [name]) := by
  have fixed := h.fixedProperty?_eq
  have object_eq := h.object_eq
  have not_name : n.isOneOf ["identifier", "this", "property_identifier"] = false := by
    rw [isOneOf]
    rcases h.names with ⟨hKind, -⟩ | ⟨hKind, -⟩ <;> rw [hKind] <;> rfl
  obtain ⟨label, children⟩ := n
  have hObject : fieldOf? "object" children = some object := object_eq
  rw [path?, not_name, if_neg Bool.false_ne_true, fixed, objectPath?_eq, hObject]

theorem path?_of_name (h : n.kind = "identifier" ∨ n.kind = "this") :
    n.path? = some [(n.text : Text)] := by
  have is_name : n.isOneOf ["identifier", "this", "property_identifier"] = true := by
    rw [isOneOf]
    rcases h with h | h <;> rw [h] <;> rfl
  obtain ⟨label, children⟩ := n
  rw [path?, is_name, if_pos rfl]
  rfl

theorem isAccess_of_name (h : n.kind = "identifier" ∨ n.kind = "this") : n.isAccess = false := by
  rw [isAccess]
  rcases h with h | h <;> rw [h] <;> rfl

/-- A call has no path. -/
theorem Calls.path?_eq (h : n.Calls callee args) : n.path? = none := by
  cases hPath : n.path? with
  | none => rfl
  | some path => exact absurd h.kind_eq (kind_ne_of_path? hPath)

end

end Node

namespace ChainOf

variable {n : Node} {links : List Link}

/-- **Flattening a chain gives its links back.** -/
theorem links_eq (h : ChainOf n links) : n.links = links := by
  induction h with
  | @name n hKind _ =>
    have not_call : n.kind ≠ "call_expression" := by
      rcases hKind with hKind | hKind <;> rw [hKind] <;> decide
    have root_eq : n.rootName = n.text := by
      rw [Node.rootName, Node.isOneOf]
      rcases hKind with hKind | hKind <;> rw [hKind] <;> rfl
    rw [Node.links_of_other not_call (Node.isAccess_of_name hKind), root_eq]
  | @calledName n callee args call hKind _ =>
    have called_eq : callee.calledName = callee.text := by
      rw [Node.calledName, Node.isAccess_of_name (.inl hKind), hKind]
      rfl
    rw [Node.links_of_call call.kind_eq, call.callee_eq, call.args_eq]
    dsimp only
    rw [Node.isAccess_of_name (.inl hKind), called_eq]
    rfl
  | @access n object links name _ access ih =>
    rw [Node.links_of_isAccess access.isAccess, access.object_eq, access.propertyName_eq,
      Node.linksOf, Option.map_some, Option.getD_some, ih]
  | @call n callee object args links name _ access call ih =>
    -- A call takes the object of its callee at once, so the callee itself is never flattened.
    have called_eq : callee.calledName = name := by
      rw [Node.calledName, if_pos access.isAccess, access.propertyName_eq]
    rw [Node.links_of_call call.kind_eq, call.callee_eq, call.args_eq]
    dsimp only
    rw [if_pos access.isAccess, access.object_eq, called_eq, Node.linksOf, Option.map_some,
      Option.getD_some, ih]

/-- **The path of a chain** is the names of its links, unless one of them is called. -/
theorem path?_eq (h : ChainOf n links) :
    n.path? = if links.all (·.args.isNone) then some (links.map (·.name)) else none := by
  induction h with
  | name hKind _ => exact Node.path?_of_name hKind
  | calledName call _ _ => exact call.path?_eq
  | @access n object links name _ access ih =>
    rw [access.path?_eq, ih]
    cases hCalled : links.all (·.args.isNone) <;> simp [hCalled]
  | @call n callee object args links name _ access call ih =>
    rw [call.path?_eq]
    simp

end ChainOf

/-! ### Where chains end -/

namespace Node

/-- **What a chain goes on with** below a node: the object of an access, or what a call calls. -/
def inner? (n : Node) : Option Node :=
  if n.isAccess then n.child? "object"
  else if n.kind == "call_expression" then n.child? "function"
  else none

/-- One of two nodes ends before the other starts. -/
def Apart (c d : Node) : Prop :=
  c.label.last ≤ d.label.first ∨ d.label.last ≤ c.label.first

instance : DecidableRel Apart :=
  fun c d => inferInstanceAs
    (Decidable (c.label.last ≤ d.label.first ∨ d.label.last ≤ c.label.first))

instance : Std.Symm Apart :=
  ⟨fun _ _ => Or.symm⟩

/-- **The children of every node of a tree share no bytes.** -/
def ChildrenApart (root : Node) : Prop :=
  ∀ n ∈ root.nodes, n.children.Pairwise Apart

instance (root : Node) : Decidable root.ChildrenApart :=
  inferInstanceAs (Decidable (∀ n ∈ root.nodes, n.children.Pairwise Apart))

variable {n m object callee args root : Node} {name : Text}

theorem mem_children_of_inner? (h : n.inner? = some m) : m ∈ n.children := by
  unfold inner? at h
  split at h
  · exact mem_of_child? h
  · split at h
    · exact mem_of_child? h
    · cases h

theorem Accesses.inner?_eq (h : n.Accesses object name) : n.inner? = some object := by
  rw [inner?, if_pos h.isAccess, h.object_eq]

theorem Calls.inner?_eq (h : n.Calls callee args) : n.inner? = some callee := by
  have not_access : n.isAccess = false := by
    rw [isAccess, h.kind_eq]
    rfl
  rw [inner?, not_access, if_neg Bool.false_ne_true, h.kind_eq, if_pos (by decide), h.callee_eq]

theorem inner?_of_name (h : n.kind = "identifier" ∨ n.kind = "this") : n.inner? = none := by
  rw [inner?, isAccess_of_name h, if_neg Bool.false_ne_true]
  rcases h with h | h <;> rw [h] <;> rfl

/-- A node around one that takes up bytes does so too. -/
theorem Nested.isWritten (nested : root.Nested) (hn : n ∈ root.nodes) (hm : m ∈ n.children)
    (written : m.IsWritten) : n.IsWritten := by
  have := (nested n hn).2 m hm
  unfold IsWritten at *
  omega

/-- **Children are told apart by their bytes**, if they take up any. -/
theorem ChildrenApart.eq_of_extent_eq (apart : root.ChildrenApart) (hn : n ∈ root.nodes)
    {c d : Node} (hc : c ∈ n.children) (hd : d ∈ n.children) (written : d.IsWritten)
    (h : c.extent = d.extent) : c = d := by
  obtain ⟨first_eq, last_eq⟩ := Prod.mk.inj h
  by_contra hne
  have := (apart n hn).forall hc hd hne
  unfold Apart at this
  unfold IsWritten at written
  omega

end Node

namespace Located

theorem endsChain_below (n m : Node) (above : List Node) :
    endsChain ⟨m, n :: above⟩ = !n.inner?.any (·.extent == m.extent) := by
  unfold endsChain Node.inner?
  dsimp only [parent?, List.head?_cons]
  split
  · rfl
  · split <;> rfl

/-- **A chain does not end where it goes on.** -/
theorem endsChain_of_inner? {l : Located} {m : Node} (h : l.node.inner? = some m) :
    endsChain ⟨m, l.node :: l.above⟩ = false := by
  rw [endsChain_below, h, Option.any_some, beq_self_eq_true, Bool.not_true]

/-- **A chain ends exactly where nothing goes on with it.** -/
theorem endsChain_iff {root : Node} (apart : root.ChildrenApart) {l : Located}
    (hl : l ∈ root.places []) (written : l.node.IsWritten) :
    l.endsChain = true ↔ ∀ n ∈ l.parent?, n.inner? ≠ some l.node := by
  have below : (⟨root, []⟩ : Located).Below l := below_of_mem_places hl
  cases below with
  | self => simp [endsChain, parent?]
  | @child p m hp hm =>
    have hParent : p.node ∈ root.nodes :=
      List.mem_map.mpr ⟨p, mem_places_iff.mpr hp, rfl⟩
    have told_apart (c : Node) (hc : p.node.inner? = some c) : c.extent = m.extent ↔ c = m :=
      ⟨apart.eq_of_extent_eq hParent (Node.mem_children_of_inner? hc) hm written, congrArg _⟩
    rw [endsChain_below]
    cases hInner : p.node.inner? with
    | none => simp [parent?, hInner]
    | some c => simp [parent?, hInner, told_apart c hInner]

end Located

/-! ### The way to the root -/

/-- **The places of a chain on the way to its root**, from where it ends: below each is what the
chain goes on with there. -/
inductive Located.LeadsTo (l : Located) : Located → Prop where
  | self : LeadsTo l l
  | inner {m : Located} {c : Node} (h : LeadsTo l m) (hc : m.node.inner? = some c) :
      LeadsTo l ⟨c, m.node :: m.above⟩

/-- What a chain goes on with is a chain itself, whose names are the first of its names. -/
theorem ChainOf.of_inner? {n c : Node} {links : List Link} (h : ChainOf n links)
    (hc : n.inner? = some c) :
    ∃ part, ChainOf c part ∧ part.map (·.name) <+: links.map (·.name) := by
  cases h with
  | name hKind _ =>
    rw [Node.inner?_of_name hKind] at hc
    cases hc
  | calledName call hKind written =>
    obtain rfl := Option.some.inj (call.inner?_eq.symm.trans hc)
    exact ⟨_, .name (.inl hKind) written, List.prefix_rfl⟩
  | @access _ object links name before access =>
    obtain rfl := Option.some.inj (access.inner?_eq.symm.trans hc)
    rw [List.map_append]
    exact ⟨links, before, List.prefix_append _ _⟩
  | @call _ callee object args links name before access call =>
    -- The callee of a link is that link without its arguments, which are no part of the names.
    obtain rfl := Option.some.inj (call.inner?_eq.symm.trans hc)
    refine ⟨_, .access before access, ?_⟩
    rw [List.map_append, List.map_append]
    exact List.prefix_rfl

/-- Every place on the way to the root is a chain, whose names are the first of the names. -/
theorem ChainOf.of_leadsTo {l m : Located} {links : List Link} (h : ChainOf l.node links)
    (hm : l.LeadsTo m) :
    ∃ part, ChainOf m.node part ∧ part.map (·.name) <+: links.map (·.name) := by
  induction hm with
  | self => exact ⟨links, h, List.prefix_rfl⟩
  | inner _ hc ih =>
    obtain ⟨part, hPart, names⟩ := ih
    obtain ⟨less, hLess, fewer⟩ := hPart.of_inner? hc
    exact ⟨less, hLess, fewer.trans names⟩

/-- A chain takes up bytes, since its root does. -/
theorem ChainOf.isWritten {root : Node} (nested : root.Nested) {n : Node} {links : List Link}
    (h : ChainOf n links) (hn : n ∈ root.nodes) : n.IsWritten := by
  have inside {n m : Node} (hn : n ∈ root.nodes) (hm : n.inner? = some m) : m ∈ root.nodes :=
    Node.mem_nodes_trans (Node.mem_nodes_of_mem_children m.mem_nodes_self
      (Node.mem_children_of_inner? hm)) hn
  have around {n m : Node} (hn : n ∈ root.nodes) (hm : n.inner? = some m) :
      m.IsWritten → n.IsWritten :=
    nested.isWritten hn (Node.mem_children_of_inner? hm)
  induction h with
  | name _ written => exact written
  | calledName call _ written => exact around hn call.inner?_eq written
  | access _ access ih => exact around hn access.inner?_eq (ih (inside hn access.inner?_eq))
  | call _ access call ih =>
    have hCallee := inside hn call.inner?_eq
    exact around hn call.inner?_eq
      (around hCallee access.inner?_eq (ih (inside hCallee access.inner?_eq)))

/-- **Flattening a chain undoes its growth.** It gives the links in the order in which they are
written, each with its name and its own arguments, and the path is the names where no link is
called. On the way to the root stand shorter chains, and none of them ends there. In a tree whose
bytes are nested and shared by no two children of a node, the chain itself ends exactly if it is
neither the object of an access, of whatever kind, nor what a call calls. -/
theorem chain_flattened {root : Node} (nested : root.Nested) (apart : root.ChildrenApart)
    {l : Located} (hl : l ∈ root.places []) {links : List Link} (chain : ChainOf l.node links) :
    l.node.links = links ∧
      (l.node.path? =
        if links.all (·.args.isNone) then some (links.map (·.name)) else none) ∧
      (∀ m, l.LeadsTo m →
        (∃ part, ChainOf m.node part ∧ part.map (·.name) <+: links.map (·.name)) ∧
          (m ≠ l → m.endsChain = false)) ∧
      (l.endsChain = true ↔ ∀ n ∈ l.parent?, n.inner? ≠ some l.node) := by
  have hNode : l.node ∈ root.nodes := List.mem_map.mpr ⟨l, hl, rfl⟩
  refine ⟨chain.links_eq, chain.path?_eq, fun m hm => ⟨chain.of_leadsTo hm, fun hne => ?_⟩,
    Located.endsChain_iff apart hl (chain.isWritten nested hNode)⟩
  cases hm with
  | self => exact absurd rfl hne
  | inner _ hc => exact Located.endsChain_of_inner? hc

/-! ### A chain in brackets -/

/-- A node of one line, from one byte to another. -/
def nodeAt (kind field text : String) (first last : Nat) (children : List Node) : Node :=
  .mk { kind, field, text, first, last, start := { column := first }, stop := { column := last } }
    children

/-- The arguments in `rows[this.at(i)['d']]`. -/
def atArgs : Node :=
  nodeAt "arguments" "arguments" "(i)" 12 15 [nodeAt "identifier" "" "i" 13 14 []]

/-- The call in `rows[this.at(i)['d']]`. -/
def atCall : Node :=
  nodeAt "call_expression" "object" "this.at(i)" 5 15
    [nodeAt "member_expression" "function" "this.at" 5 12
      [nodeAt "this" "object" "this" 5 9 [],
        nodeAt "property_identifier" "property" "at" 10 12 []],
      atArgs]

/-- The chain between the brackets of `rows[this.at(i)['d']]`. -/
def chainInBrackets : Node :=
  nodeAt "subscript_expression" "index" "this.at(i)['d']" 5 20
    [atCall, nodeAt "string" "index" "'d'" 16 19 []]

/-- The tree of `rows[this.at(i)['d']]`. -/
def rowsInBrackets : Node :=
  nodeAt "subscript_expression" "" "rows[this.at(i)['d']]" 0 21
    [nodeAt "identifier" "object" "rows" 0 4 [], chainInBrackets]

theorem chainOf_chainInBrackets : ChainOf chainInBrackets
    [{ name := "this" }, { name := "at", args := some atArgs }, { name := "d" }] := by
  have root : ChainOf (nodeAt "this" "object" "this" 5 9 []) [{ name := "this" }] :=
    .name (.inr rfl) (by unfold Node.IsWritten; decide)
  have called : ChainOf atCall [{ name := "this" }, { name := "at", args := some atArgs }] :=
    .call root ⟨rfl, .inl ⟨rfl, _, rfl, rfl⟩⟩ ⟨rfl, rfl, rfl⟩
  exact .access called ⟨rfl, .inr ⟨rfl, _, rfl, .inl rfl, .char '\'', rfl⟩⟩

/-- The chain between the brackets ends there, although an access is around it. -/
theorem chain_flattened_in_brackets :
    ∃ l ∈ rowsInBrackets.places [], l.node = chainInBrackets ∧
      l.node.links.map (·.name) = ["this", "at", "d"] ∧ l.node.path? = none ∧
      l.endsChain = true := by
  have hl : (⟨chainInBrackets, [rowsInBrackets]⟩ : Located) ∈ rowsInBrackets.places [] :=
    Located.mem_places_iff.mpr (.child (l := ⟨rowsInBrackets, []⟩) .self
      (List.mem_cons_of_mem _ List.mem_cons_self))
  obtain ⟨links, path, -, ends⟩ :=
    chain_flattened (by decide +kernel) (by decide +kernel) hl chainOf_chainInBrackets
  refine ⟨_, hl, rfl, by rw [links]; rfl, by rw [path]; rfl, ends.mpr ?_⟩
  rintro n ⟨⟩ goes_on
  have extents := congrArg (Option.map Node.extent) goes_on
  exact absurd extents (by decide +kernel)

end SuiteAudit.Syntax
