import SuiteAudit.Proofs.Moves

/-!
# Chains that are waited for

A chain that is a statement of its own may be waited for, or handed back. The rest of the file moves
and is the same otherwise, but for the texts of the nodes around the statement (`Rewrapped`). A
chain that ends in a call is found wherever it stands, one that ends in an access only as a
statement. So what the body asserts stays as it is, up to quoted texts, unless the chain ends in an
access: then its own assertions are lost, and only these (`told_of_rewrapped`).
-/

namespace SuiteAudit

open Syntax

namespace Syntax

section

variable (outer inner : Move) (chain : Node)

/-- **A tree in which a chain that was a statement of its own is waited for or handed back.** The
chain moves in one way and the rest in another; around the statement the texts may change. What
follows the chain in its statement is no access, and a statement is no argument list. -/
inductive Rewrapped : Node → Node → Prop where
  | awaited {label wrapped keyword : Label} {text : String} {after : List Node}
      (hStatement : label.kind = "expression_statement") (hField : label.field ≠ "arguments")
      (hWrapped : wrapped.kind = "await_expression") (hKeyword : keyword.kind = "await") :
      Rewrapped (.mk label (chain :: after))
        (.mk { label.moved outer with text } <|
          .mk wrapped [.mk keyword [], chain.moved inner] :: after.map (·.moved outer))
  | returned {label keyword : Label} {text : String} {after : List Node}
      (hStatement : label.kind = "expression_statement") (hField : label.field ≠ "arguments")
      (hKeyword : keyword.kind = "return") (hAfter : ∀ n ∈ after, n.kind ≠ "member_expression") :
      Rewrapped (.mk label (chain :: after))
        (.mk { label.moved outer with kind := "return_statement", text } <|
          .mk keyword [] :: chain.moved inner :: after.map (·.moved outer))
  | around {label : Label} {text : String} {before after : List Node} {n m : Node}
      (h : Rewrapped n m) :
      Rewrapped (.mk label (before ++ n :: after))
        (.mk { label.moved outer with text } <|
          before.map (·.moved outer) ++ m :: after.map (·.moved outer))

/-- What a node becomes: it moves, or holds the statement. -/
def Becomes (n m : Node) : Prop :=
  m = n.moved outer ∨ Rewrapped outer inner chain n m

/-- **Texts that are the same**, or those of nodes that hold the statement. -/
def Quotes (s t : Text) : Prop :=
  t = s ∨ ∃ n m, Rewrapped outer inner chain n m ∧ s = n.compact ∧ t = m.compact

end

/-- **A word of a chain**: a name, what an access names, or a string. -/
def isWord (n : Node) : Bool :=
  n.isOneOf ["identifier", "this"] || ["property", "index"].contains n.field ||
    n.stringValue?.isSome

/-- **Statements lie apart from words**: the text of no word holds one. -/
def WordsApart (top : Node) : Prop :=
  ∀ n ∈ top.nodes, isWord n = true → ∀ s ∈ n.nodes, s.kind ≠ "expression_statement"

instance (top : Node) : Decidable (WordsApart top) :=
  inferInstanceAs (Decidable (∀ n ∈ top.nodes, isWord n = true →
    ∀ s ∈ n.nodes, s.kind ≠ "expression_statement"))

section

variable {outer inner : Move} {chain n m : Node}

/-! ### Nodes around the statement -/

theorem forall₂_moved_becomes (ns : List Node) :
    List.Forall₂ (Becomes outer inner chain) ns (ns.map (·.moved outer)) :=
  List.forall₂_map_right_iff.mpr (List.forall₂_same.mpr fun _ _ => .inl rfl)

theorem Rewrapped.forall₂_becomes (h : Rewrapped outer inner chain n m)
    (before after : List Node) :
    List.Forall₂ (Becomes outer inner chain) (before ++ n :: after)
      (before.map (·.moved outer) ++ m :: after.map (·.moved outer)) :=
  List.rel_append (forall₂_moved_becomes before) (.cons (.inr h) (forall₂_moved_becomes after))

theorem Becomes.replacedBy (h : Becomes outer inner chain n m) : ReplacedBy outer n m := by
  rcases h with rfl | h
  · exact replacedBy_moved outer n
  · cases h with
    | awaited hStatement => exact ⟨rfl, rfl, rfl, .inl rfl⟩
    | returned hStatement => exact ⟨rfl, rfl, rfl, .inr ⟨hStatement, rfl⟩⟩
    | around => exact ⟨rfl, rfl, rfl, .inl rfl⟩

theorem Becomes.kind_beq (h : Becomes outer inner chain n m) {kind : String}
    (hKind : kind ∉ ["expression_statement", "return_statement"]) :
    (m.kind == kind) = (n.kind == kind) :=
  h.replacedBy.kind_beq hKind

/-- **Around the statement children become children.** -/
theorem Becomes.children (h : Becomes outer inner chain n m)
    (hOther : n.kind ≠ "expression_statement" ∨ n.field = "arguments") :
    List.Forall₂ (Becomes outer inner chain) n.children m.children := by
  rcases h with rfl | h
  · rw [Node.children_moved]
    exact forall₂_moved_becomes n.children
  · cases h with
    | awaited hStatement hField => exact (hOther.elim (· hStatement) hField).elim
    | returned hStatement hField => exact (hOther.elim (· hStatement) hField).elim
    | around h => exact h.forall₂_becomes _ _

/-- Operands become operands. -/
theorem forall₂_operands (h : List.Forall₂ (Becomes outer inner chain) n.children m.children) :
    List.Forall₂ (Becomes outer inner chain) n.operands m.operands := by
  rw [Node.operands, Node.operands, Node.namedChildren, Node.namedChildren]
  refine List.rel_filter (fun c d hc => ?_) (List.rel_filter (fun c d hc => ?_) h)
  · show (!(c.kind == "comment")) = true ↔ (!(d.kind == "comment")) = true
    rw [hc.kind_beq (by decide)]
  · show c.named = true ↔ d.named = true
    rw [hc.replacedBy.named_eq]

/-- What fills a field becomes what fills it. -/
theorem child?_cases (h : List.Forall₂ (Becomes outer inner chain) n.children m.children)
    (field : String) : n.child? field = none ∧ m.child? field = none ∨
      ∃ c d, n.child? field = some c ∧ m.child? field = some d ∧
        Becomes outer inner chain c d ∧ c.field = field := by
  have same := rel_find?_field (fun _ _ hc => hc.replacedBy.field_eq) h field
  rw [Node.child?, Node.child?]
  generalize n.children.find? (·.field == field) = x, m.children.find? (·.field == field) = y
    at same
  cases same with
  | none => exact .inl ⟨rfl, rfl⟩
  | some found => exact .inr ⟨_, _, rfl, rfl, found⟩

theorem Becomes.isAccess_eq (h : Becomes outer inner chain n m) : m.isAccess = n.isAccess := by
  rw [Node.isAccess, Node.isAccess, h.kind_beq (by decide), h.kind_beq (by decide)]

theorem not_statement_of_isAccess (h : n.isAccess = true) : n.kind ≠ "expression_statement" := by
  intro hKind
  rw [Node.isAccess, hKind] at h
  exact absurd h (by decide)

/-- Around the statement a node covers the same text, or one that holds the statement. -/
theorem Becomes.quotes (h : Becomes outer inner chain n m) :
    Quotes outer inner chain n.compact m.compact := by
  rcases h with rfl | h
  · exact .inl (n.compact_moved outer)
  · exact .inr ⟨n, m, h, rfl, rfl⟩

/-! ### Words around the statement -/

theorem WordsApart.of_mem {top : Node} (h : WordsApart top) (hn : n ∈ top.nodes) : WordsApart n :=
  fun k hk => h k (Node.mem_nodes_trans hk hn)

/-- Every tree with the statement holds a statement. -/
theorem Rewrapped.exists_statement (h : Rewrapped outer inner chain n m) :
    ∃ s ∈ n.nodes, s.kind = "expression_statement" := by
  induction h with
  | awaited hStatement => exact ⟨_, Node.mem_nodes_self _, hStatement⟩
  | returned hStatement => exact ⟨_, Node.mem_nodes_self _, hStatement⟩
  | around h ih =>
    obtain ⟨s, hs, hKind⟩ := ih
    exact ⟨s, Node.mem_nodes_of_mem_children hs (List.mem_append_right _ List.mem_cons_self), hKind⟩

/-- **A word apart from statements only moves.** -/
theorem Becomes.eq_moved (h : Becomes outer inner chain n m) (hApart : WordsApart n)
    (hWord : isWord n = true) : m = n.moved outer := by
  refine h.resolve_right fun rewrapped => ?_
  obtain ⟨s, hs, hKind⟩ := rewrapped.exists_statement
  exact hApart n n.mem_nodes_self hWord s hs hKind

/-- What fills a field that names an access only moves. -/
theorem Becomes.child?_eq_moved (h : Becomes outer inner chain n m) (hApart : WordsApart n)
    (hAccess : n.isAccess = true) (field : String)
    (hField : ["property", "index"].contains field = true) :
    m.child? field = (n.child? field).map (·.moved outer) := by
  rcases child?_cases (h.children (.inl (not_statement_of_isAccess hAccess))) field with
    ⟨hNone, hNone'⟩ | ⟨c, d, hc, hd, same, rfl⟩
  · rw [hNone, hNone', Option.map_none]
  · have word : isWord c = true := by
      rw [isWord, hField, Bool.or_true, Bool.true_or]
    rw [hc, hd, Option.map_some,
      same.eq_moved (hApart.of_mem (Node.mem_nodes_of_child? hc)) word]

theorem Becomes.propertyName_eq (h : Becomes outer inner chain n m) (hApart : WordsApart n)
    (hAccess : n.isAccess = true) : m.propertyName = n.propertyName := by
  have property := h.child?_eq_moved hApart hAccess "property" (by decide)
  have index := h.child?_eq_moved hApart hAccess "index" (by decide)
  rw [← n.propertyName_moved outer, Node.propertyName, Node.propertyName, Node.kind_moved,
    h.kind_beq (by decide), h.kind_beq (by decide), Node.childText, Node.childText, property,
    Node.child?_moved, Node.indexName, Node.indexName, index, Node.child?_moved]

/-- **The names of links** stay. -/
theorem Becomes.calledName_eq (h : Becomes outer inner chain n m) (hApart : WordsApart n) :
    m.calledName = n.calledName := by
  by_cases hAccess : n.isAccess = true
  · rw [Node.calledName, Node.calledName, h.isAccess_eq, hAccess, if_pos rfl, if_pos rfl,
      h.propertyName_eq hApart hAccess]
  · by_cases hName : n.kind = "identifier"
    · have word : isWord n = true := by
        rw [isWord, Node.isOneOf, hName]
        rfl
      rw [h.eq_moved hApart word, Node.calledName_moved]
    · rw [Node.calledName, Node.calledName, h.isAccess_eq, if_neg hAccess, if_neg hAccess,
        h.kind_beq (by decide), beq_eq_false_iff_ne.mpr hName]
      rfl

theorem Becomes.rootName_eq (h : Becomes outer inner chain n m) (hApart : WordsApart n) :
    m.rootName = n.rootName := by
  by_cases hName : n.isOneOf ["identifier", "this"] = true
  · have word : isWord n = true := by
      rw [isWord, hName]
      rfl
    rw [h.eq_moved hApart word, Node.rootName_moved]
  · have isOneOf_eq : m.isOneOf ["identifier", "this"] = n.isOneOf ["identifier", "this"] := by
      simp only [Node.isOneOf, List.contains_cons, List.contains_nil, Bool.or_false]
      rw [h.kind_beq (by decide), h.kind_beq (by decide)]
    rw [Node.rootName, Node.rootName, isOneOf_eq, if_neg hName, if_neg hName]

/-- Whether there is a child of some kind does not change. -/
theorem any_kind_eq {ns ms : List Node} {kind : String}
    (h : List.Forall₂ (Becomes outer inner chain) ns ms)
    (hKind : kind ∉ ["expression_statement", "return_statement"]) :
    ms.any (·.kind == kind) = ns.any (·.kind == kind) := by
  induction h with
  | nil => rfl
  | cons hc _ ih =>
    rw [List.any_cons, List.any_cons, ih, hc.kind_beq hKind]

/-- **The content of a string stays**, and what is none does not become one. -/
theorem Becomes.stringValue?_eq (h : Becomes outer inner chain n m) (hApart : WordsApart n) :
    m.stringValue? = n.stringValue? := by
  cases hValue : n.stringValue? with
  | some value =>
    have word : isWord n = true := by
      rw [isWord, hValue]
      exact Bool.or_true _
    rw [h.eq_moved hApart word, Node.stringValue?_moved, hValue]
  | none =>
    have not_string : (n.kind == "string") = false := by
      cases hString : n.kind == "string" with
      | false => rfl
      | true => simp [Node.stringValue?, hString] at hValue
    rw [Node.stringValue?, h.kind_beq (by decide), h.kind_beq (by decide), not_string]
    cases hTemplate : n.kind == "template_string" with
    | false => rfl
    | true =>
      -- A template in which something is substituted has no content, whatever it says.
      have children := h.children (.inl fun hKind => by rw [hKind] at hTemplate; cases hTemplate)
      simp only [Node.stringValue?, not_string, hTemplate, Bool.false_eq_true, if_false,
        if_true] at hValue ⊢
      rw [any_kind_eq children (by decide)]
      split at hValue
      · next hSubstituted => rw [if_pos hSubstituted]
      · cases hValue

/-! ### Links around the statement -/

/-- **What is passed to a link** is quoted anew, and begins with the same string. -/
theorem Becomes.argsAlike (h : Becomes outer inner chain n m) (hField : n.field = "arguments")
    (hApart : WordsApart n) : Reading.ArgsAlike (Quotes outer inner chain) n m := by
  have operands := forall₂_operands (h.children (.inr hField))
  constructor
  · rw [Reading.texts, Reading.texts, List.forall₂_map_left_iff, List.forall₂_map_right_iff]
    exact operands.imp fun _ _ hc => hc.quotes
  · rw [Reading.chainer?, Reading.chainer?]
    cases hOperands : n.operands with
    | nil =>
      rw [hOperands, List.forall₂_nil_left_iff] at operands
      rw [operands]
    | cons c rest =>
      have hc : c ∈ n.operands := by
        rw [hOperands]
        exact List.mem_cons_self
      rw [hOperands, List.forall₂_cons_left_iff] at operands
      obtain ⟨d, rest', same, -, hOperands'⟩ := operands
      rw [hOperands']
      exact same.stringValue?_eq (hApart.of_mem (mem_nodes_of_mem_operands hc))

/-- **The links of a chain around the statement** keep their words. -/
theorem Becomes.linksAlike : ∀ {n m : Node}, Becomes outer inner chain n m → WordsApart n →
    Reading.LinksAlike (Quotes outer inner chain) n.links m.links
  | n, m, h, hApart => by
    -- The object is that of the access or, for a call, that of what it calls.
    have objects {k l : Node} (hk : Becomes outer inner chain k l) (hAccess : k.isAccess = true)
        (hInside : WordsApart k) (hSize : k.size ≤ n.size) :
        Reading.LinksAlike (Quotes outer inner chain) (Node.linksOf (k.child? "object"))
          (Node.linksOf (l.child? "object")) := by
      rcases child?_cases (hk.children (.inl (not_statement_of_isAccess hAccess))) "object" with
        ⟨hNone, hNone'⟩ | ⟨o, o', hObject, hObject', ho, -⟩
      · rw [hNone, hNone']
        exact .nil
      · rw [hObject, hObject']
        have := Nat.lt_of_lt_of_le (Node.size_lt_of_child? hObject) hSize
        exact ho.linksAlike (hInside.of_mem (Node.mem_nodes_of_child? hObject))
    by_cases hAccess : n.isAccess = true
    · rw [Node.links_of_isAccess hAccess, Node.links_of_isAccess (h.isAccess_eq.trans hAccess)]
      exact List.rel_append (objects h hAccess hApart (Nat.le_refl _))
        (.cons ⟨h.propertyName_eq hApart hAccess, .none⟩ .nil)
    · rw [Bool.not_eq_true] at hAccess
      have call_eq : (m.kind == "call_expression") = (n.kind == "call_expression") :=
        h.kind_beq (by decide)
      by_cases hCall : n.kind = "call_expression"
      · have hCall' : m.kind = "call_expression" := by
          rw [hCall, beq_self_eq_true] at call_eq
          exact eq_of_beq call_eq
        have children := h.children (.inl (by rw [hCall]; decide))
        rw [Node.links_of_call hCall, Node.links_of_call hCall']
        rcases child?_cases children "function" with
          ⟨hNone, hNone'⟩ | ⟨callee, callee', hCallee, hCallee', same, -⟩
        · rw [hNone, hNone']
          exact .nil
        · have inside := hApart.of_mem (Node.mem_nodes_of_child? hCallee)
          rw [hCallee, hCallee']
          dsimp only
          rw [same.isAccess_eq]
          refine List.rel_append ?_ (.cons ⟨same.calledName_eq inside, ?_⟩ .nil)
          · split
            · next hAccess =>
              exact objects same hAccess inside (Nat.le_of_lt (Node.size_lt_of_child? hCallee))
            · exact .nil
          · rcases child?_cases children "arguments" with
              ⟨hNone, hNone'⟩ | ⟨args, args', hArgs, hArgs', passed, hField⟩
            · rw [hNone, hNone']
              exact .none
            · rw [hArgs, hArgs']
              exact .some
                (passed.argsAlike hField (hApart.of_mem (Node.mem_nodes_of_child? hArgs)))
      · have hCall' : m.kind ≠ "call_expression" := by
          rw [beq_eq_false_iff_ne.mpr hCall] at call_eq
          exact beq_eq_false_iff_ne.mp call_eq
        rw [Node.links_of_other hCall hAccess,
          Node.links_of_other hCall' (h.isAccess_eq.trans hAccess)]
        exact .cons ⟨h.rootName_eq hApart, .none⟩ .nil
termination_by n => n.size

end

end Syntax

/-! ### What chains assert afterwards -/

/-- Assertions that are alike are so apart from their places. -/
theorem Assertion.Alike.plain {R : Text → Text → Prop} {a b : Assertion} (h : a.Alike R b) :
    a.plain.Alike R b.plain where
  subject := h.subject
  args := h.args
  rest := by
    rw [h.rest]
    rfl

section

variable {outer inner : Move} {chain : Node}

/-- **A chain that holds the statement** asserts alike. -/
theorem Syntax.Rewrapped.alike_asserted {n m : Node} (h : Rewrapped outer inner chain n m)
    (hApart : WordsApart n) :
    List.Forall₂ (Assertion.Alike (Quotes outer inner chain)) n.asserted m.asserted := by
  have becomes : Becomes outer inner chain n m := .inr h
  have alike := Reading.alike_ofLinks (fun t => .inl rfl) (becomes.linksAlike hApart)
  rw [Node.asserted, Node.asserted, List.forall₂_map_left_iff, List.forall₂_map_right_iff]
  exact alike.imp fun _ _ ha => ha.plain

variable (outer inner chain) in
/-- **What a chain of one tree asserts, and the same chain of the other**: the same, or the chain
holds the statement. -/
def Restated (top other : Node) (a b : List Assertion) : Prop :=
  b = a ∨ ∃ n ∈ top.nodes, ∃ m ∈ other.nodes, Rewrapped outer inner chain n m ∧
    a = n.asserted ∧ b = m.asserted

theorem Restated.of_mem_children {n m c d : Node} {a b : List Assertion}
    (h : Restated outer inner chain c d a b) (hc : c ∈ n.children) (hd : d ∈ m.children) :
    Restated outer inner chain n m a b := by
  obtain rfl | ⟨k, hk, l, hl, rewrapped, same⟩ := h
  · exact .inl rfl
  · exact .inr ⟨k, Node.mem_nodes_of_mem_children hk hc, l, Node.mem_nodes_of_mem_children hl hd,
      rewrapped, same⟩

namespace Body

/-- What the chain asserts as a statement of its own. -/
def readingAsStatement (chain : Node) : List (List Assertion) :=
  if chain.kind == "call_expression" || chain.kind == "member_expression" then [chain.asserted]
  else []

/-- What the chain asserts elsewhere. -/
def readingElsewhere (chain : Node) : List (List Assertion) :=
  if chain.kind == "call_expression" then [chain.asserted] else []

section

variable {n m wrapped keyword : Node} {above others after : List Node}

/-- **The chains of the statement**: the chain itself, those inside it, and those after it. -/
theorem chainReadings_statement (hKind : n.kind = "expression_statement")
    (hChildren : n.children = chain :: after) :
    chainReadings (n.places above) = readingAsStatement chain ++
      (readingsBelow (chain :: n :: above) chain.children ++ readingsBelow (n :: above) after) := by
  rw [chainReadings_places, ownReading_eq_nil hKind (by decide), hChildren, readingsBelow_cons,
    chainReadings_places, ownReading, isChain_of_parent (goesOn_eq_false hKind (by decide)), hKind,
    beq_self_eq_true, Bool.and_true, readingAsStatement, List.nil_append, List.append_assoc]

variable (above) in
/-- **Elsewhere the chain is found if it ends in a call**, and those inside it are found anyway. -/
theorem chainReadings_elsewhere {kind : String} (hKind : m.kind = kind)
    (hOther : kind ∉ ["member_expression", "subscript_expression", "call_expression",
      "expression_statement"]) :
    chainReadings ((chain.moved inner).places (m :: others)) =
      readingElsewhere chain ++ readingsBelow (chain :: above) chain.children := by
  have goes_on : kind ∉ ["member_expression", "subscript_expression", "call_expression"] :=
    fun h => hOther (List.mem_append_left ["expression_statement"] h)
  have not_statement : kind ≠ "expression_statement" := by
    rintro rfl
    exact hOther (by decide)
  have inside : ∀ d ∈ chain.children, isChain ⟨d.moved inner, chain.moved inner :: m :: others⟩ =
      isChain ⟨d, chain :: above⟩ := by
    refine fun d _ => isChain_of_replacedBy (chain.kind_moved inner) ?_ (replacedBy_moved inner d)
    rw [Node.children_moved]
    exact forall₂_moved inner chain.children
  rw [chainReadings_places, ownReading, isChain_of_parent (goesOn_eq_false hKind goes_on), hKind,
    beq_eq_false_iff_ne.mpr not_statement, Bool.and_false, Bool.or_false, Node.kind_moved,
    asserted_moved, Node.children_moved, readingsBelow_moved inner inside, readingElsewhere]

/-- A keyword asserts nothing. -/
theorem chainReadings_keyword {kind : String} (hKind : keyword.kind = kind)
    (hChildren : keyword.children = [])
    (hOther : kind ∉ ["member_expression", "call_expression"]) :
    chainReadings (keyword.places above) = [] := by
  rw [chainReadings_places, ownReading_eq_nil hKind hOther, hChildren]
  rfl

/-- The chains of the statement when its chain is waited for. -/
theorem chainReadings_awaited (hKind : n.kind = "expression_statement")
    (hKind' : m.kind = "expression_statement")
    (hChildren : m.children = wrapped :: after.map (·.moved outer))
    (hWrapped : wrapped.kind = "await_expression")
    (hInside : wrapped.children = [keyword, chain.moved inner]) (hKeyword : keyword.kind = "await")
    (hLeaf : keyword.children = []) :
    chainReadings (m.places others) = readingElsewhere chain ++
      (readingsBelow (chain :: n :: above) chain.children ++ readingsBelow (n :: above) after) := by
  have rest : readingsBelow (m :: others) (after.map (·.moved outer)) =
      readingsBelow (n :: above) after := by
    refine readingsBelow_moved outer fun c _ => ?_
    rw [isChain_of_parent (goesOn_eq_false hKind (by decide)),
      isChain_of_parent (goesOn_eq_false hKind' (by decide)), hKind, hKind', Node.kind_moved]
  rw [chainReadings_places, ownReading_eq_nil hKind' (by decide), hChildren, readingsBelow_cons,
    rest, chainReadings_places, ownReading_eq_nil hWrapped (by decide), hInside,
    readingsBelow_cons, chainReadings_keyword hKeyword hLeaf (by decide), readingsBelow_cons,
    chainReadings_elsewhere (n :: above) hWrapped (by decide)]
  simp only [readingsBelow, List.flatMap_nil, List.nil_append, List.append_nil, List.append_assoc]

/-- The chains of the statement when its chain is handed back. -/
theorem chainReadings_returned (hKind : n.kind = "expression_statement")
    (hKind' : m.kind = "return_statement")
    (hChildren : m.children = keyword :: chain.moved inner :: after.map (·.moved outer))
    (hKeyword : keyword.kind = "return") (hLeaf : keyword.children = [])
    (hAfter : ∀ c ∈ after, c.kind ≠ "member_expression") :
    chainReadings (m.places others) = readingElsewhere chain ++
      (readingsBelow (chain :: n :: above) chain.children ++ readingsBelow (n :: above) after) := by
  have rest : readingsBelow (m :: others) (after.map (·.moved outer)) =
      readingsBelow (n :: above) after := by
    refine readingsBelow_moved outer fun c hc => ?_
    rw [isChain_of_parent (goesOn_eq_false hKind (by decide)),
      isChain_of_parent (goesOn_eq_false hKind' (by decide)), Node.kind_moved,
      beq_eq_false_iff_ne.mpr (hAfter c hc), Bool.false_and, Bool.false_and]
  rw [chainReadings_places, ownReading_eq_nil hKind' (by decide), hChildren, readingsBelow_cons,
    chainReadings_keyword hKeyword hLeaf (by decide), readingsBelow_cons, rest,
    chainReadings_elsewhere (n :: above) hKind' (by decide)]
  simp only [List.nil_append, List.append_assoc]

end

theorem forall₂_restated_refl {top other : Node} (readings : List (List Assertion)) :
    List.Forall₂ (Restated outer inner chain top other) readings readings :=
  List.forall₂_same.mpr fun _ _ => .inl rfl

/-- **The chains around the statement**: those beside the child that holds it assert what they did,
and one that ends in front of it holds the statement as well. -/
theorem exists_chainReadings_around {label : Label} {text : String} {before after : List Node}
    {n m top other : Node} {above others : List Node} (h : Rewrapped outer inner chain n m)
    (hTop : top = .mk label (before ++ n :: after))
    (hOther : other = .mk { label.moved outer with text }
      (before.map (·.moved outer) ++ m :: after.map (·.moved outer)))
    (hRoot : isChain ⟨other, others⟩ = isChain ⟨top, above⟩) :
    ∃ front front' back, isChain ⟨m, other :: others⟩ = isChain ⟨n, top :: above⟩ ∧
      chainReadings (top.places above) =
        front ++ (chainReadings (n.places (top :: above)) ++ back) ∧
      chainReadings (other.places others) =
        front' ++ (chainReadings (m.places (other :: others)) ++ back) ∧
      List.Forall₂ (Restated outer inner chain top other) front front' := by
  have children : top.children = before ++ n :: after := by rw [hTop]; rfl
  have children' : other.children =
      before.map (·.moved outer) ++ m :: after.map (·.moved outer) := by rw [hOther]; rfl
  have inside {c d : Node} (hc : Becomes outer inner chain c d) :
      isChain ⟨d, other :: others⟩ = isChain ⟨c, top :: above⟩ := by
    refine isChain_of_replacedBy (by rw [hTop, hOther]; rfl) ?_ hc.replacedBy
    rw [children, children']
    exact (h.forall₂_becomes before after).imp fun _ _ h => h.replacedBy
  have beside (ns : List Node) : readingsBelow (other :: others) (ns.map (·.moved outer)) =
      readingsBelow (top :: above) ns :=
    readingsBelow_moved outer fun c _ => inside (.inl rfl)
  have parts (above ns ms : List Node) (k : Node) : readingsBelow above (ns ++ k :: ms) =
      readingsBelow above ns ++ (chainReadings (k.places above) ++ readingsBelow above ms) := by
    rw [readingsBelow, List.flatMap_append, List.flatMap_cons]
    rfl
  have own : List.Forall₂ (Restated outer inner chain top other) (ownReading top above)
      (ownReading other others) := by
    have rewrapped : Rewrapped outer inner chain top other := by
      rw [hTop, hOther]
      exact .around h
    rw [ownReading, ownReading, hRoot]
    split
    · exact .cons (.inr ⟨top, top.mem_nodes_self, other, other.mem_nodes_self, rewrapped, rfl,
        rfl⟩) .nil
    · exact .nil
  refine ⟨ownReading top above ++ readingsBelow (top :: above) before,
    ownReading other others ++ readingsBelow (top :: above) before,
    readingsBelow (top :: above) after, inside (.inr h), ?_, ?_,
    List.rel_append own (forall₂_restated_refl _)⟩
  · rw [chainReadings_places, children, parts, List.append_assoc]
  · rw [chainReadings_places, children', parts, beside, beside, List.append_assoc]

/-- **The chains of a tree with the statement**: all but the one of the statement itself assert what
they did, or hold the statement. -/
theorem exists_chainReadings {n m : Node} (h : Rewrapped outer inner chain n m) :
    ∀ {above others : List Node}, isChain ⟨m, others⟩ = isChain ⟨n, above⟩ →
      ∃ front front' back back',
        chainReadings (n.places above) = front ++ (readingAsStatement chain ++ back) ∧
        chainReadings (m.places others) = front' ++ (readingElsewhere chain ++ back') ∧
        List.Forall₂ (Restated outer inner chain n m) front front' ∧
        List.Forall₂ (Restated outer inner chain n m) back back' := by
  -- By induction on the way down to the statement, where whether a chain ends is settled for each
  -- node before it is entered.
  induction h with
  | @awaited label wrapped keyword text after hStatement _ hWrapped hKeyword =>
    intro above others _
    have statement : (Node.mk label (chain :: after)).kind = "expression_statement" := hStatement
    refine ⟨[], [], _, _, chainReadings_statement statement rfl, ?_, .nil, forall₂_restated_refl _⟩
    exact chainReadings_awaited statement hStatement rfl hWrapped rfl hKeyword rfl
  | @returned label keyword text after hStatement _ hKeyword hAfter =>
    intro above others _
    have statement : (Node.mk label (chain :: after)).kind = "expression_statement" := hStatement
    refine ⟨[], [], _, _, chainReadings_statement statement rfl, ?_, .nil, forall₂_restated_refl _⟩
    exact chainReadings_returned statement rfl rfl hKeyword rfl hAfter
  | @around label text before after n m h ih =>
    intro above others hRoot
    obtain ⟨outside, outside', rest, hInside, hTop, hOther, hOutside⟩ :=
      exists_chainReadings_around h rfl rfl hRoot
    obtain ⟨front, front', back, back', hBefore, hAfter, hFront, hBack⟩ := ih hInside
    -- What lies around the child lies around the tree, since the child is a part of it.
    have lift {a b : List Assertion} (hab : Restated outer inner chain n m a b) :
        Restated outer inner chain (.mk label (before ++ n :: after))
          (.mk { label.moved outer with text }
            (before.map (·.moved outer) ++ m :: after.map (·.moved outer))) a b :=
      hab.of_mem_children (List.mem_append_right before List.mem_cons_self)
        (List.mem_append_right _ List.mem_cons_self)
    refine ⟨outside ++ front, outside' ++ front', back ++ rest, back' ++ rest, ?_, ?_, ?_, ?_⟩
    · rw [hTop, hBefore]
      simp only [List.append_assoc]
    · rw [hOther, hAfter]
      simp only [List.append_assoc]
    · exact List.rel_append hOutside (hFront.imp fun _ _ => lift)
    · exact List.rel_append (hBack.imp fun _ _ => lift) (forall₂_restated_refl rest)

/-! ### Bodies -/

theorem goesOn_of_isFunction {n : Node} (h : n.isFunction = true) :
    goesOn n = false ∧ (n.kind == "expression_statement") = false := by
  have others : ∀ kind ∈ Node.functionKinds,
      kind ∉ ["member_expression", "subscript_expression", "call_expression"] ∧
        (kind == "expression_statement") = false := by
    decide
  obtain ⟨goes_on, not_statement⟩ := others n.kind (List.contains_iff_mem.mp h)
  exact ⟨goesOn_eq_false rfl goes_on, not_statement⟩

/-- The root of a body ends a chain as what becomes of it does. -/
theorem isChain_root {function other n m : Node} (hFunction : function.isFunction = true)
    (hOther : other.isFunction = true) (h : Rewrapped outer inner chain n m) :
    isChain ⟨m, [other]⟩ = isChain ⟨n, [function]⟩ := by
  obtain ⟨goes_on, not_statement⟩ := goesOn_of_isFunction hFunction
  obtain ⟨goes_on', not_statement'⟩ := goesOn_of_isFunction hOther
  have becomes : Becomes outer inner chain n m := .inr h
  rw [isChain_of_parent goes_on, isChain_of_parent goes_on', not_statement, not_statement',
    becomes.kind_beq (by decide), Bool.and_false, Bool.and_false]

/-- The same chain asserts alike in both trees. -/
theorem alike_of_restated {top other : Node} {a b : List Assertion}
    (hApart : WordsApart top) (h : Restated outer inner chain top other a b) :
    List.Forall₂ (Assertion.Alike (Quotes outer inner chain)) a b := by
  obtain rfl | ⟨n, hn, m, -, rewrapped, rfl, rfl⟩ := h
  · exact List.forall₂_same.mpr fun c _ =>
      ⟨.inl rfl, List.forall₂_same.mpr fun _ _ => .inl rfl, rfl⟩
  · exact rewrapped.alike_asserted (hApart.of_mem hn)

/-- A chain that ends in an access is found as a statement only. -/
theorem readings_of_access (h : chain.kind = "member_expression") :
    readingAsStatement chain = [chain.asserted] ∧ readingElsewhere chain = [] := by
  rw [readingAsStatement, readingElsewhere, h]
  exact ⟨rfl, rfl⟩

/-- Any other is found elsewhere too, if at all. -/
theorem readingElsewhere_eq (h : chain.kind ≠ "member_expression") :
    readingElsewhere chain = readingAsStatement chain := by
  rw [readingAsStatement, readingElsewhere, beq_eq_false_iff_ne.mpr h, Bool.or_false]

/-- **What a body asserts when a chain is waited for or handed back.** -/
theorem told_of_rewrapped {function other : Node} {b b' : Body}
    (hFunction : function.isFunction = true) (hOther : other.isFunction = true)
    (hBody : of? function = some b) (hBody' : of? other = some b')
    (h : Rewrapped outer inner chain b.root b'.root) :
    (∃ front front' back back',
      b.told = (front ++ (readingAsStatement chain ++ back)).flatten ∧
      b'.told = (front' ++ (readingElsewhere chain ++ back')).flatten ∧
      List.Forall₂ (Restated outer inner chain b.root b'.root) front front' ∧
      List.Forall₂ (Restated outer inner chain b.root b'.root) back back') ∧
    (WordsApart b.root →
      (List.Forall₂ (Assertion.Alike (Quotes outer inner chain)) b.told b'.told ↔
        (chain.kind = "member_expression" → chain.asserted = []))) := by
  obtain ⟨root, -, rfl⟩ := Option.map_eq_some_iff.mp hBody
  obtain ⟨root', -, rfl⟩ := Option.map_eq_some_iff.mp hBody'
  obtain ⟨front, front', back, back', hBefore, hAfter, hFront, hBack⟩ :=
    exists_chainReadings h (isChain_root hFunction hOther h)
  rw [told_eq, told_eq]
  dsimp only
  rw [hBefore, hAfter]
  refine ⟨⟨front, front', back, back', rfl, rfl, hFront, hBack⟩, fun hApart => ?_⟩
  have front_alike := hFront.imp fun _ _ => alike_of_restated hApart
  have back_alike := hBack.imp fun _ _ => alike_of_restated hApart
  by_cases hAccess : chain.kind = "member_expression"
  · -- What lies around the chain is as long as before, so the chain itself must assert nothing.
    obtain ⟨as_statement, elsewhere⟩ := readings_of_access hAccess
    rw [as_statement, elsewhere, List.nil_append, List.singleton_append,
      forall_prop_of_true hAccess]
    constructor
    · intro alike
      have length_eq := alike.length_eq
      have front_eq := (List.rel_flatten front_alike).length_eq
      have back_eq := (List.rel_flatten back_alike).length_eq
      rw [List.flatten_append, List.flatten_append, List.flatten_cons, List.length_append,
        List.length_append, List.length_append] at length_eq
      exact List.length_eq_zero_iff.mp (by omega)
    · intro nothing
      rw [nothing, List.flatten_append, List.flatten_append, List.flatten_cons, List.nil_append]
      exact List.rel_append (List.rel_flatten front_alike) (List.rel_flatten back_alike)
  · rw [readingElsewhere_eq hAccess]
    have own : List.Forall₂ (Restated outer inner chain root root') (readingAsStatement chain)
        (readingAsStatement chain) := forall₂_restated_refl _
    have own_alike := own.imp fun _ _ => alike_of_restated hApart
    exact iff_of_true
      (List.rel_flatten (List.rel_append front_alike (List.rel_append own_alike back_alike)))
      fun h => absurd h hAccess

end Body

end

/-! ### A promise of chai -/

/-- The chain `expect(p).to.eventually.be.true`. -/
def eventuallyTrue : Node :=
  let node (kind field text : String) (children : List Node) : Node :=
    .mk { kind, field, text } children
  let member (field name : String) (object : Node) : Node :=
    node "member_expression" field "" [object, node "property_identifier" "property" name []]
  let expected : Node :=
    node "call_expression" "object" ""
      [node "identifier" "function" "expect" [],
        node "arguments" "arguments" "" [node "identifier" "" "p" []]]
  member "" "true" (member "object" "be" (member "object" "eventually"
    (member "object" "to" expected)))

/-- The body of a callback with one statement. -/
def bodyOfOne (n : Node) : Node :=
  .mk { kind := "statement_block", field := "body" } [.mk { kind := "expression_statement" } [n]]

/-- An asynchronous callback with that body. -/
def callbackOfOne (n : Node) : Node :=
  .mk { kind := "arrow_function" } [.mk { kind := "async" } [], bodyOfOne n]

/-- That chain when it is waited for. -/
def eventuallyTrueAwaited : Node :=
  .mk { kind := "await_expression" } [.mk { kind := "await" } [], eventuallyTrue]

/-- Nodes that stay where they are. -/
def stays : Move :=
  { extent := id, injective := Function.injective_id, start := id, stop := id }

theorem rewrapped_eventuallyTrue : Rewrapped stays stays eventuallyTrue (bodyOfOne eventuallyTrue)
    (bodyOfOne eventuallyTrueAwaited) :=
  @Rewrapped.around stays stays eventuallyTrue { kind := "statement_block", field := "body" } ""
    [] [] _ _ (.awaited rfl (by decide) rfl rfl)

/-- **That chain asserts nothing any more when it is waited for.** -/
theorem told_of_rewrapped_eventually :
    ∃ b b', Body.of? (callbackOfOne eventuallyTrue) = some b ∧
      Body.of? (callbackOfOne eventuallyTrueAwaited) = some b' ∧
      Rewrapped stays stays eventuallyTrue b.root b'.root ∧
      b.told.map (·.matcher) = [("true" : Text)] ∧
      ¬List.Forall₂ (Assertion.Alike (Quotes stays stays eventuallyTrue)) b.told b'.told := by
  have apart : WordsApart (bodyOfOne eventuallyTrue) := by
    decide +kernel
  have hBody : Body.of? (callbackOfOne eventuallyTrue) = some _ := rfl
  have hBody' : Body.of? (callbackOfOne eventuallyTrueAwaited) = some _ := rfl
  refine ⟨_, _, hBody, hBody', rewrapped_eventuallyTrue, by decide +kernel, fun alike => ?_⟩
  have nothing := ((Body.told_of_rewrapped rfl rfl hBody hBody' rewrapped_eventuallyTrue).2
    apart).mp alike rfl
  exact absurd nothing (by decide +kernel)

end SuiteAudit
