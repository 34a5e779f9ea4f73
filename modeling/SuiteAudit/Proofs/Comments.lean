import Mathlib.Data.List.Forall2
import SuiteAudit.Proofs.Subtrees
import SuiteAudit.SourceFacts.OfTree

/-!
# Trees without their comments

A grammar lets comments stand anywhere, so they are among the children of any node. `Node.bare` is a
tree without them and without places, and two trees that differ in comments only are the same bare
(`Commented.bare_eq`). What is read by field or by kind is the same in the bare tree, and so is what
is read off arguments, which leave comments out. What takes the first named child is not: that may
be a comment (`head?_namedChildren_bare`).
-/

namespace SuiteAudit.Syntax

/-! ### Bare trees -/

/-- A label without its place in the file. -/
def Label.bare (l : Label) : Label where
  kind := l.kind
  named := l.named
  field := l.field
  text := l.text

namespace Node

/-- **Whether a node is a comment**: it is named, fills no field, and holds nothing. -/
def isComment (n : Node) : Bool :=
  n.kind == "comment" && n.named && n.field == "" && n.children.isEmpty

mutual

/-- **A tree without comments and places.** -/
def bare : Node → Node
  | .mk label children => .mk label.bare (bareAll children)

/-- Trees without comments and places. -/
def bareAll : List Node → List Node
  | [] => []
  | c :: rest => if c.bare.isComment then bareAll rest else c.bare :: bareAll rest

end

end Node

mutual

/-- **A tree into which comments were put**: every other node keeps its place among the others, its
kind, its field and its text. -/
inductive Commented : Node → Node → Prop where
  | node {label other : Label} {children others : List Node} (same : label.bare = other.bare)
      (below : CommentedAll children others) : Commented (.mk label children) (.mk other others)

/-- Trees into which comments were put, and between which. -/
inductive CommentedAll : List Node → List Node → Prop where
  | nil : CommentedAll [] []
  | keep {c d : Node} {cs ds : List Node} (here : Commented c d) (rest : CommentedAll cs ds) :
      CommentedAll (c :: cs) (d :: ds)
  | insert {d : Node} {cs ds : List Node} (comment : d.isComment = true)
      (rest : CommentedAll cs ds) : CommentedAll cs (d :: ds)

end

namespace Node

/-! ### Parts of a bare node -/

section

variable (n : Node)

@[simp] theorem kind_bare : n.bare.kind = n.kind := by cases n; rfl
@[simp] theorem named_bare : n.bare.named = n.named := by cases n; rfl
@[simp] theorem field_bare : n.bare.field = n.field := by cases n; rfl
@[simp] theorem text_bare : n.bare.text = n.text := by cases n; rfl
@[simp] theorem children_bare : n.bare.children = bareAll n.children := by cases n; rfl

@[simp] theorem isOneOf_bare (kinds : List String) : n.bare.isOneOf kinds = n.isOneOf kinds := by
  rw [isOneOf, kind_bare, isOneOf]

@[simp] theorem isAccess_bare : n.bare.isAccess = n.isAccess := by
  rw [isAccess, kind_bare, isAccess]

@[simp] theorem isFunction_bare : n.bare.isFunction = n.isFunction := by
  rw [isFunction, isOneOf_bare, isFunction]

@[simp] theorem compact_bare : n.bare.compact = n.compact := by
  rw [compact, text_bare, compact]

end

/-- What is left below a node are the bare children that are no comments. -/
theorem bareAll_eq (ns : List Node) : bareAll ns = (ns.map bare).filter (!·.isComment) := by
  induction ns with
  | nil => rfl
  | cons n ns ih =>
    rw [bareAll, List.map_cons, List.filter_cons, ih]
    cases n.bare.isComment <;> rfl

theorem isComment_bare {n : Node} (h : n.isComment = true) : n.bare.isComment = true := by
  simp only [isComment, kind_bare, named_bare, field_bare, children_bare, Bool.and_eq_true,
    List.isEmpty_iff] at h ⊢
  exact ⟨h.1, by rw [h.2, bareAll]⟩

theorem kind_of_isComment {n : Node} (h : n.bare.isComment = true) : n.kind = "comment" := by
  simp only [isComment, kind_bare, Bool.and_eq_true, beq_iff_eq] at h
  exact h.1.1.1

theorem named_of_isComment {n : Node} (h : n.bare.isComment = true) : n.named = true := by
  simp only [isComment, named_bare, Bool.and_eq_true] at h
  exact h.1.1.2

theorem field_of_isComment {n : Node} (h : n.bare.isComment = true) : n.field = "" := by
  simp only [isComment, field_bare, Bool.and_eq_true, beq_iff_eq] at h
  exact h.1.2

/-- **A field is never filled by a comment.** -/
@[simp] theorem child?_bare (n : Node) {field : String} (hField : field ≠ "") :
    n.bare.child? field = (n.child? field).map bare := by
  rw [child?, child?, children_bare]
  induction n.children with
  | nil => rfl
  | cons c cs ih =>
    rw [bareAll, List.find?_cons]
    cases hComment : c.bare.isComment with
    | true =>
      have unfilled : (c.field == field) = false := by
        rw [field_of_isComment hComment]
        exact beq_eq_false_iff_ne.mpr hField.symm
      rw [if_pos rfl, ih, unfilled]
    | false =>
      rw [if_neg Bool.false_ne_true, List.find?_cons, field_bare, ih]
      cases c.field == field <;> rfl

/-- Kinds other than that of comments stand among the children of both. -/
theorem any_kind_bareAll {kind : String} (h : kind ≠ "comment") (ns : List Node) :
    (bareAll ns).any (·.kind == kind) = ns.any (·.kind == kind) := by
  induction ns with
  | nil => rfl
  | cons n ns ih =>
    rw [bareAll, List.any_cons]
    cases hComment : n.bare.isComment with
    | true =>
      have other : (n.kind == kind) = false := by
        rw [kind_of_isComment hComment]
        exact beq_eq_false_iff_ne.mpr h.symm
      rw [if_pos rfl, ih, other, Bool.false_or]
    | false => rw [if_neg Bool.false_ne_true, List.any_cons, kind_bare, ih]

@[simp] theorem childText_bare (n : Node) {field : String} (hField : field ≠ "") :
    n.bare.childText field = n.childText field := by
  rw [childText, child?_bare n hField, Option.map_map, childText]
  congr 2
  exact funext text_bare

@[simp] theorem childCompact_bare (n : Node) {field : String} (hField : field ≠ "") :
    n.bare.childCompact field = n.childCompact field := by
  rw [childCompact, child?_bare n hField, Option.map_map, childCompact]
  congr 2
  exact funext compact_bare

@[simp] theorem operator_bare (n : Node) : n.bare.operator = n.operator :=
  n.childText_bare (by decide)

@[simp] theorem body?_bare (n : Node) : n.bare.body? = n.body?.map bare :=
  n.child?_bare (by decide)

@[simp] theorem isAsync_bare (n : Node) : n.bare.isAsync = n.isAsync := by
  rw [isAsync, children_bare, any_kind_bareAll (by decide), isAsync]

@[simp] theorem stringValue?_bare (n : Node) : n.bare.stringValue? = n.stringValue? := by
  rw [stringValue?, kind_bare, text_bare, children_bare, any_kind_bareAll (by decide), stringValue?]

/-! ### Comments among the named children -/

theorem namedChildren_bare (n : Node) :
    n.bare.namedChildren = (n.namedChildren.map bare).filter (!·.isComment) := by
  rw [namedChildren, namedChildren, children_bare, bareAll_eq, List.filter_filter, List.filter_map,
    List.filter_map, List.filter_filter]
  congr 1
  exact List.filter_congr fun c _ => by simp [Bool.and_comm]

/-- **Operands are never comments.** -/
theorem operands_bare (n : Node) : n.bare.operands = n.operands.map bare := by
  rw [operands, operands, namedChildren_bare, List.filter_filter, List.filter_map]
  congr 1
  apply List.filter_congr
  intro c _
  -- What counts as a comment has its kind, so leaving out the kind leaves out more.
  cases hComment : c.bare.isComment with
  | true => simp [hComment, kind_of_isComment hComment]
  | false => simp [hComment]

@[simp] theorem arguments_bare (n : Node) : n.bare.arguments = n.arguments.map bare := by
  rw [arguments, child?_bare n (by decide), arguments]
  cases n.child? "arguments" with
  | none => rfl
  | some args => exact operands_bare args

/-- **What is read of the named children is the same where a comment gives nothing.** -/
theorem filterMap_namedChildren_bare {β : Type} (n : Node) {f : Node → Option β}
    (bare_eq : ∀ c, f c.bare = f c) (quiet : ∀ c, c.kind = "comment" → f c = none) :
    n.bare.namedChildren.filterMap f = n.namedChildren.filterMap f := by
  rw [namedChildren_bare, List.filterMap_filter, List.filterMap_map]
  apply List.filterMap_congr
  intro c _
  rw [Function.comp_apply]
  cases hComment : c.bare.isComment with
  | true => simp [quiet c (kind_of_isComment hComment)]
  | false => simp [bare_eq]

/-- **The first named child may be a comment**; if it is none, it is the first of both. -/
theorem head?_namedChildren_bare {n : Node}
    (h : ∀ c, n.namedChildren.head? = some c → c.bare.isComment = false) :
    n.bare.namedChildren.head? = n.namedChildren.head?.map bare := by
  rw [namedChildren_bare]
  cases hNamed : n.namedChildren with
  | nil => rfl
  | cons c cs =>
    rw [hNamed] at h
    have kept : c.bare.isComment = false := h c rfl
    rw [List.map_cons, List.filter_cons, kept]
    rfl

end Node

/-! ### Comments put into a tree -/

mutual

/-- No comment need be put in. -/
theorem Commented.refl : ∀ n : Node, Commented n n
  | .mk _ children => .node rfl (CommentedAll.refl children)

theorem CommentedAll.refl : ∀ ns : List Node, CommentedAll ns ns
  | [] => .nil
  | n :: ns => .keep (Commented.refl n) (CommentedAll.refl ns)

end

mutual

/-- **A tree is the same bare, whatever comments are put into it.** -/
theorem Commented.bare_eq {n m : Node} : Commented n m → n.bare = m.bare
  | .node same below => by rw [Node.bare, Node.bare, same, below.bareAll_eq]

theorem CommentedAll.bareAll_eq {ns ms : List Node} :
    CommentedAll ns ms → Node.bareAll ns = Node.bareAll ms
  | .nil => rfl
  | .keep here rest => by rw [Node.bareAll, Node.bareAll, here.bare_eq, rest.bareAll_eq]
  | .insert comment rest => by
    rw [Node.bareAll, if_pos (Node.isComment_bare comment), rest.bareAll_eq]

end

namespace Commented

variable {n m : Node} (h : Commented n m)

include h

theorem kind_eq : m.kind = n.kind := by
  rw [← m.kind_bare, ← h.bare_eq, n.kind_bare]

theorem named_eq : m.named = n.named := by
  rw [← m.named_bare, ← h.bare_eq, n.named_bare]

theorem field_eq : m.field = n.field := by
  rw [← m.field_bare, ← h.bare_eq, n.field_bare]

theorem children : CommentedAll n.children m.children := by
  cases h with
  | node same below => exact below

end Commented

theorem Node.kind_of_leaf {n : Node} (h : n.isComment = true) : n.kind = "comment" :=
  kind_of_isComment (isComment_bare h)

/-- **Where comments may come first**, the first node stays first unless a comment comes first
now. -/
theorem CommentedAll.head?_filter {p : Node → Bool} (same : ∀ {c d}, Commented c d → p d = p c)
    (admits : ∀ {d : Node}, d.isComment = true → p d = true) {first : Node} :
    ∀ {ns ms : List Node}, CommentedAll ns ms → (ns.filter p).head? = some first →
      ∃ d, (ms.filter p).head? = some d ∧ (d.kind = "comment" ∨ Commented first d)
  | _, _, .nil, hFirst => by cases hFirst
  | _, _, .keep (c := c) (d := d) here rest, hFirst => by
    rw [List.filter_cons] at hFirst ⊢
    rw [same here]
    cases hc : p c with
    | true =>
      rw [hc] at hFirst
      obtain rfl : c = first := Option.some.inj hFirst
      exact ⟨d, rfl, .inr here⟩
    | false =>
      rw [hc] at hFirst
      exact rest.head?_filter same admits hFirst
  | _, _, .insert (d := d) comment rest, _ => by
    rw [List.filter_cons, if_pos (admits comment)]
    exact ⟨d, rfl, .inl (Node.kind_of_leaf comment)⟩

/-- A field is filled by the same node as before. -/
theorem CommentedAll.find?_field {field : String} (hField : field ≠ "") {filler : Node} :
    ∀ {ns ms : List Node}, CommentedAll ns ms → ns.find? (·.field == field) = some filler →
      ∃ d, ms.find? (·.field == field) = some d ∧ Commented filler d
  | _, _, .nil, hFiller => by cases hFiller
  | _, _, .keep (c := c) (d := d) here rest, hFiller => by
    rw [List.find?_cons] at hFiller ⊢
    rw [here.field_eq]
    cases hc : c.field == field with
    | true =>
      rw [hc] at hFiller
      obtain rfl : c = filler := Option.some.inj hFiller
      exact ⟨d, rfl, here⟩
    | false =>
      rw [hc] at hFiller
      exact rest.find?_field hField hFiller
  | _, _, .insert (d := d) comment rest, hFiller => by
    have unfilled : (d.field == field) = false := by
      rw [Node.field_of_isComment (Node.isComment_bare comment)]
      exact beq_eq_false_iff_ne.mpr hField.symm
    rw [List.find?_cons, unfilled]
    exact rest.find?_field hField hFiller

mutual

/-- **Every node of a tree is still there** when comments are put in. -/
theorem Commented.exists_mem_nodes {n m k : Node} : Commented n m → k ∈ n.nodes →
    ∃ l ∈ m.nodes, Commented k l
  | .node same below, hk => by
    rw [Node.nodes_eq_cons] at hk ⊢
    rcases List.mem_cons.mp hk with rfl | hk
    · exact ⟨_, List.mem_cons_self, .node same below⟩
    · obtain ⟨l, hl, hSame⟩ := below.exists_mem_nodes hk
      exact ⟨l, List.mem_cons_of_mem _ hl, hSame⟩

theorem CommentedAll.exists_mem_nodes {k : Node} {ns ms : List Node} : CommentedAll ns ms →
    k ∈ ns.flatMap Node.nodes → ∃ l ∈ ms.flatMap Node.nodes, Commented k l
  | .nil, hk => by cases hk
  | .keep here rest, hk => by
    rw [List.flatMap_cons, List.mem_append] at hk
    rcases hk with hk | hk
    · obtain ⟨l, hl, hSame⟩ := here.exists_mem_nodes hk
      exact ⟨l, by rw [List.flatMap_cons]; exact List.mem_append_left _ hl, hSame⟩
    · obtain ⟨l, hl, hSame⟩ := rest.exists_mem_nodes hk
      exact ⟨l, by rw [List.flatMap_cons]; exact List.mem_append_right _ hl, hSame⟩
  | .insert comment rest, hk => by
    obtain ⟨l, hl, hSame⟩ := rest.exists_mem_nodes hk
    exact ⟨l, by rw [List.flatMap_cons]; exact List.mem_append_right _ hl, hSame⟩

end

/-- What comments cannot take away from a node was nowhere before, if it is nowhere now. -/
theorem Commented.forall_not {n m : Node} (h : Commented n m) {P : Node → Prop}
    (stays : ∀ {k l}, Commented k l → P k → P l) (none_now : ∀ l ∈ m.nodes, ¬ P l) :
    ∀ k ∈ n.nodes, ¬ P k := by
  intro k hk hP
  obtain ⟨l, hl, hSame⟩ := h.exists_mem_nodes hk
  exact none_now l hl (stays hSame hP)

/-! ### Numbers and paths -/

mutual

@[simp] theorem Node.numberValue_bare : ∀ n : Node, n.bare.numberValue = n.numberValue
  | .mk label children => by
    have operator_eq := (Node.mk label children).operator_bare
    rw [Node.bare] at operator_eq ⊢
    rw [Node.numberValue, Node.numberValue, operator_eq, argumentValue_bareAll children]
    rfl

theorem argumentValue_bareAll : ∀ ns : List Node,
    argumentValue (Node.bareAll ns) = argumentValue ns
  | [] => rfl
  | n :: ns => by
    rw [Node.bareAll, argumentValue]
    cases hComment : n.bare.isComment with
    | true =>
      rw [if_pos rfl, argumentValue_bareAll ns, Node.field_of_isComment hComment]
      rfl
    | false =>
      rw [if_neg Bool.false_ne_true, argumentValue, Node.field_bare, n.numberValue_bare,
        argumentValue_bareAll ns]

end

@[simp] theorem Node.fixedProperty?_bare (n : Node) : n.bare.fixedProperty? = n.fixedProperty? := by
  rw [fixedProperty?, kind_bare, childText_bare n (by decide), child?_bare n (by decide),
    fixedProperty?, Option.bind_map]
  congr 3
  exact funext stringValue?_bare

mutual

@[simp] theorem Node.path?_bare : ∀ n : Node, n.bare.path? = n.path?
  | .mk label children => by
    have fixed_eq := (Node.mk label children).fixedProperty?_bare
    have kind_eq :=
      (Node.mk label children).isOneOf_bare ["identifier", "this", "property_identifier"]
    rw [Node.bare] at fixed_eq kind_eq ⊢
    rw [Node.path?, Node.path?, fixed_eq, kind_eq, objectPath?_bareAll children]
    rfl

theorem objectPath?_bareAll : ∀ ns : List Node, objectPath? (Node.bareAll ns) = objectPath? ns
  | [] => rfl
  | n :: ns => by
    rw [Node.bareAll, objectPath?]
    cases hComment : n.bare.isComment with
    | true =>
      rw [if_pos rfl, objectPath?_bareAll ns, Node.field_of_isComment hComment]
      rfl
    | false =>
      rw [if_neg Bool.false_ne_true, objectPath?, Node.field_bare, n.path?_bare,
        objectPath?_bareAll ns]

end

@[simp] theorem Node.calleePath?_bare (n : Node) : n.bare.calleePath? = n.calleePath? := by
  rw [calleePath?, child?_bare n (by decide), calleePath?, Option.bind_map]
  congr 1
  exact funext path?_bare

/-! ### Places -/

namespace Located

/-- A place of the tree without comments. -/
def bare (l : Located) : Located where
  node := l.node.bare
  above := l.above.map Node.bare

@[simp] theorem node_bare (l : Located) : l.bare.node = l.node.bare := rfl

@[simp] theorem above_bare (l : Located) : l.bare.above = l.above.map Node.bare := rfl

@[simp] theorem parent?_bare (l : Located) : l.bare.parent? = l.parent?.map Node.bare :=
  List.head?_map

theorem chain_map_bare (ns : List Node) : chain (ns.map Node.bare) = (chain ns).map bare := by
  induction ns with
  | nil => rfl
  | cons n ns ih => rw [List.map_cons, chain, ih, chain, List.map_cons, bare]

@[simp] theorem ancestors_bare (l : Located) : l.bare.ancestors = l.ancestors.map bare :=
  chain_map_bare l.above

theorem aboveUntil_bare (l : Located) {stop : Node → Bool} (h : ∀ n, stop n.bare = stop n) :
    l.bare.aboveUntil stop = (l.aboveUntil stop).map Node.bare := by
  rw [aboveUntil, above_bare, List.takeWhile_map, aboveUntil]
  congr 2
  exact funext fun n => by rw [Function.comp_apply, h]

end Located

mutual

/-- **The places of a bare tree** are those of the tree, the places of comments left out. -/
theorem places_bare (above : List Node) : ∀ n : Node, n.bare.places (above.map Node.bare) =
    Located.bare ⟨n, above⟩ ::
      ((placesAll (n :: above) n.children).filter (!·.node.bare.isComment)).map Located.bare
  | .mk label children => by
    have below := placesAll_bareAll (Node.mk label children :: above) children
    rw [Node.places_eq_cons, Node.children_bare]
    exact congrArg _ below

theorem placesAll_bareAll (above : List Node) : ∀ ns : List Node,
    placesAll (above.map Node.bare) (Node.bareAll ns) =
      ((placesAll above ns).filter (!·.node.bare.isComment)).map Located.bare
  | [] => rfl
  | n :: ns => by
    have here := places_bare above n
    rw [Node.bareAll, placesAll, List.filter_append, List.map_append, ← placesAll_bareAll above ns,
      Node.places_eq_cons, List.filter_cons]
    cases hComment : n.bare.isComment with
    | true =>
      -- Nothing is left below a comment.
      have none_below :
          placesAll (n.bare :: above.map Node.bare) (Node.bareAll n.children) = [] := by
        simp only [Node.isComment, Bool.and_eq_true, List.isEmpty_iff, Node.children_bare]
          at hComment
        rw [hComment.2, placesAll]
      rw [Node.places_eq_cons, Node.children_bare, none_below] at here
      have left_out := (List.cons.inj here).2
      simp only [Bool.not_true, if_true, Bool.false_eq_true, if_false, ← left_out, List.nil_append]
    | false =>
      rw [if_neg Bool.false_ne_true, placesAll, here]
      rfl

end

/-- What is read of the nodes of a tree is the same in the bare tree, where a comment gives
nothing. -/
theorem Node.filterMap_nodes_bare {β : Type} (n : Node) {f : Node → Option β}
    (bare_eq : ∀ m, f m.bare = f m) (quiet : ∀ m, m.kind = "comment" → f m = none) :
    n.bare.nodes.filterMap f = n.nodes.filterMap f := by
  have places_eq := places_bare [] n
  rw [List.map_nil] at places_eq
  rw [nodes, nodes, List.filterMap_map, List.filterMap_map, places_eq, n.places_eq_cons,
    ← List.map_cons, List.filterMap_map, List.filterMap_cons, List.filterMap_cons,
    List.filterMap_filter]
  have own (l : Located) : ((f ∘ (·.node)) ∘ Located.bare) l = (f ∘ (·.node)) l := bare_eq l.node
  have below_eq : ((placesAll [n] n.children).filterMap fun l =>
      if !l.node.bare.isComment then ((f ∘ (·.node)) ∘ Located.bare) l else none) =
        (placesAll [n] n.children).filterMap (f ∘ (·.node)) := by
    apply List.filterMap_congr
    intro l _
    rw [own]
    cases hComment : l.node.bare.isComment with
    | true => exact (quiet l.node (kind_of_isComment hComment)).symm
    | false => rfl
  rw [own, below_eq]

/-! ### What is read of the places -/

/-- Two readings that give the same in some respect are alike. -/
theorem rel_of_map_eq {β γ : Type} {g : β → γ} {S : β → β → Prop} {x y : Option β}
    (alike : ∀ a b, x = some a → y = some b → g a = g b → S a b) (same : x.map g = y.map g) :
    Option.Rel S x y := by
  cases x with
  | none =>
    cases y with
    | none => exact .none
    | some b => cases same
  | some a =>
    cases y with
    | none => cases same
    | some b => exact .some (alike a b rfl rfl (Option.some.inj same))

theorem forall₂_filterMap_cons {α β : Type} {f : α → Option β} {S : β → β → Prop} {x y : α}
    (here : Option.Rel S (f x) (f y)) {xs ys : List α}
    (rest : List.Forall₂ S (xs.filterMap f) (ys.filterMap f)) :
    List.Forall₂ S ((x :: xs).filterMap f) ((y :: ys).filterMap f) := by
  rw [List.filterMap_cons, List.filterMap_cons]
  generalize f x = a at here
  generalize f y = b at here
  cases here with
  | none => exact rest
  | some same => exact .cons same rest

/-- **A reading of places that comments leave alike**, where `Q` holds of the node: a comment gives
nothing, and places that are the same bare give what is alike. -/
structure Located.ReadsAlike {β : Type} (f : Located → Option β) (Q : Node → Prop)
    (S : β → β → Prop) : Prop where
  quiet : ∀ l, l.node.kind = "comment" → f l = none
  alike : ∀ {l k}, Commented l.node k.node → l.bare = k.bare → Q k.node →
    Option.Rel S (f k) (f l)

section

variable {β : Type} {f : Located → Option β} {Q : Node → Prop} {S : β → β → Prop}
  (reads : Located.ReadsAlike f Q S)

include reads

mutual

/-- **What is read of the places of a tree** is alike when comments are put in, where it is alike at
each place and a comment gives nothing. -/
theorem Commented.forall₂_places {n m : Node} {above others : List Node}
    (hAbove : above.map Node.bare = others.map Node.bare) : Commented n m →
      (∀ k ∈ m.nodes, Q k) →
        List.Forall₂ S ((m.places others).filterMap f) ((n.places above).filterMap f)
  | @Commented.node label other children ds same below, hQ => by
    rw [Node.nodes_eq_cons] at hQ
    have here : Commented (.mk label children) (.mk other ds) := .node same below
    have above_eq : (Node.mk label children :: above).map Node.bare =
        (Node.mk other ds :: others).map Node.bare := by
      rw [List.map_cons, List.map_cons, here.bare_eq, hAbove]
    rw [Node.places, Node.places]
    apply forall₂_filterMap_cons
    · refine reads.alike here ?_ (hQ _ List.mem_cons_self)
      rw [Located.bare, Located.bare, here.bare_eq, hAbove]
    · exact below.forall₂_places above_eq fun k hk => hQ k (List.mem_cons_of_mem _ hk)

theorem CommentedAll.forall₂_places {ns ms : List Node} {above others : List Node}
    (hAbove : above.map Node.bare = others.map Node.bare) : CommentedAll ns ms →
      (∀ k ∈ ms.flatMap Node.nodes, Q k) →
        List.Forall₂ S ((placesAll others ms).filterMap f) ((placesAll above ns).filterMap f)
  | .nil, _ => .nil
  | .keep here rest, hQ => by
    rw [placesAll, placesAll, List.filterMap_append, List.filterMap_append]
    rw [List.flatMap_cons] at hQ
    apply List.rel_append
    · exact here.forall₂_places hAbove fun k hk => hQ k (List.mem_append_left _ hk)
    · exact rest.forall₂_places hAbove fun k hk => hQ k (List.mem_append_right _ hk)
  | .insert (d := d) comment rest, hQ => by
    rw [List.flatMap_cons] at hQ
    have childless : d.children = [] := by
      simp only [Node.isComment, Bool.and_eq_true, List.isEmpty_iff] at comment
      exact comment.2
    rw [placesAll, List.filterMap_append, d.places_eq_cons, childless, placesAll,
      List.filterMap_cons, reads.quiet _ (Node.kind_of_leaf comment)]
    exact rest.forall₂_places hAbove fun k hk => hQ k (List.mem_append_right _ hk)

end

theorem Commented.forall₂_filterMap {n m : Node} (h : Commented n m) (hQ : ∀ k ∈ m.nodes, Q k) :
    List.Forall₂ S ((m.places []).filterMap f) ((n.places []).filterMap f) :=
  forall₂_places reads (List.map_nil.trans List.map_nil.symm) h hQ

end

/-- What is the same in some respect at each place is so for the whole tree. -/
theorem Commented.map_filterMap_places {n m : Node} (h : Commented n m) {β γ : Type}
    {f : Located → Option β} {g : β → γ} {Q : Node → Prop}
    (quiet : ∀ l : Located, l.node.kind = "comment" → f l = none)
    (same : ∀ {l k}, Commented l.node k.node → l.bare = k.bare → Q k.node →
      (f k).map g = (f l).map g)
    (hQ : ∀ k ∈ m.nodes, Q k) :
    ((m.places []).filterMap f).map g = ((n.places []).filterMap f).map g := by
  have reads : Located.ReadsAlike f Q fun a b => g a = g b :=
    { quiet
      alike := fun hNode hBare hk => rel_of_map_eq (fun _ _ _ _ hg => hg) (same hNode hBare hk) }
  have alike := Commented.forall₂_filterMap reads h hQ
  rw [← List.forall₂_eq_eq_eq, List.forall₂_map_left_iff, List.forall₂_map_right_iff]
  exact alike

/-- What is the same in some respect in the bare tree is so whatever comments are put in. -/
theorem Commented.map_filterMap_places_of_bare {n m : Node} (h : Commented n m) {β γ : Type}
    {f : Located → Option β} {g : β → γ}
    (quiet : ∀ l : Located, l.node.kind = "comment" → f l = none)
    (bare_eq : ∀ l, (f l.bare).map g = (f l).map g) :
    ((m.places []).filterMap f).map g = ((n.places []).filterMap f).map g := by
  refine h.map_filterMap_places (Q := fun _ => True) quiet (fun {l k} _ hBare _ => ?_)
    fun _ _ => trivial
  rw [← bare_eq k, ← bare_eq l, hBare]

end SuiteAudit.Syntax
