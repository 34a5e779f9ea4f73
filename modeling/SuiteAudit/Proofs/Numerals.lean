import SuiteAudit.Proofs.Accepted
import SuiteAudit.Proofs.Subtrees

/-!
# Numerals beyond the doubles

A whole number too large for a double has no value, and a test file that passes one to a call cannot
be read. `read_eq_tooLarge_iff` says which literals are looked at: the arguments of the calls in the
bodies of tests, and the entries of their tables. Whatever the tree, the numeral at fault is one of
its nodes (`holdsBeyond_of_read`).
-/

namespace SuiteAudit

open Syntax

/-! ### Readings that fail -/

/-- There is one way for a number to be too large. -/
instance : Subsingleton NumberTooLarge :=
  ⟨fun _ _ => rfl⟩

section

variable {ε α β : Type} {e : ε}

/-- Two readings in turn fail where one of them does, if what the second one reads does not hang on
the first. -/
theorem bind_eq_error_iff {x : Except ε α} {f : α → Except ε β} {p : Prop}
    (h : ∀ a, f a = .error e ↔ p) [Subsingleton ε] :
    (x >>= f) = .error e ↔ x = .error e ∨ p := by
  cases x with
  | error d => simp [bind, Except.bind, Subsingleton.elim d e]
  | ok a => simp [bind, Except.bind, h a]

theorem pure_eq_error_iff {a : α} : (pure a : Except ε α) = .error e ↔ False := by
  simp [pure, Except.pure]

/-- **Reading a list fails where reading a member does.** -/
theorem mapM_eq_error_iff [Subsingleton ε] {f : α → Except ε β} {xs : List α} :
    xs.mapM f = .error e ↔ ∃ x ∈ xs, f x = .error e := by
  induction xs with
  | nil => simp [pure_eq_error_iff]
  | cons x xs ih =>
    rw [List.mapM_cons, bind_eq_error_iff fun _ => bind_eq_error_iff fun _ => pure_eq_error_iff, ih,
      or_false]
    simp

end

namespace Syntax

/-! ### Literals -/

/-- **A tree holds a numeral that is too large for a double.** -/
def Node.HoldsBeyond (n : Node) : Prop :=
  ∃ m ∈ n.nodes, m.kind = "number" ∧ numeralValue m.text = .error {}

theorem Node.HoldsBeyond.of_mem {m n : Node} (h : m.HoldsBeyond) (hm : m ∈ n.nodes) :
    n.HoldsBeyond := by
  obtain ⟨k, hk, number⟩ := h
  exact ⟨k, mem_nodes_trans hk hm, number⟩

theorem Node.HoldsBeyond.of_mem_children {m n : Node} (h : m.HoldsBeyond) (hm : m ∈ n.children) :
    n.HoldsBeyond :=
  h.of_mem (mem_nodes_of_mem_children m.mem_nodes_self hm)

/-- The argument behind a sign fails where its child does. -/
theorem exists_of_argumentValue {children : List Node} (h : argumentValue children = .error {}) :
    ∃ c ∈ children, c.numberValue = .error {} := by
  induction children with
  | nil => simp [argumentValue] at h
  | cons c rest ih =>
    rw [argumentValue] at h
    split at h
    · exact ⟨c, List.mem_cons_self, h⟩
    · obtain ⟨d, hd, hValue⟩ := ih h
      exact ⟨d, List.mem_cons_of_mem c hd, hValue⟩

/-- What is in parentheses fails where its child does. -/
theorem exists_of_soleLiteral {children : List Node} (h : soleLiteral children = .error {}) :
    ∃ c ∈ children, c.literal? = .error {} := by
  induction children with
  | nil => simp [soleLiteral] at h
  | cons c rest ih =>
    rw [soleLiteral] at h
    split at h
    · exact ⟨c, List.mem_cons_self, h⟩
    · obtain ⟨d, hd, hLiteral⟩ := ih h
      exact ⟨d, List.mem_cons_of_mem c hd, hLiteral⟩

/-- A number without a value is such a numeral, behind its signs. -/
theorem Node.holdsBeyond_of_numberValue : ∀ {n : Node}, n.numberValue = .error {} → n.HoldsBeyond
  | .mk label children, h => by
    rw [numberValue] at h
    split at h
    · dsimp only at h
      split at h
      · obtain ⟨c, hc, hValue⟩ := exists_of_argumentValue (map_eq_error.mp h)
        have := Node.size_lt_of_mem (n := .mk label children) hc
        exact (holdsBeyond_of_numberValue hValue).of_mem_children hc
      · cases h
    · split at h
      · next hKind => exact ⟨_, mem_nodes_self _, beq_iff_eq.mp hKind, h⟩
      · cases h
termination_by n => n.size

/-- **A literal without a value holds such a numeral**, in its parentheses and behind its signs. -/
theorem Node.holdsBeyond_of_literal? : ∀ {n : Node}, n.literal? = .error {} → n.HoldsBeyond
  | .mk label children, h => by
    rw [literal?] at h
    split at h
    · obtain ⟨c, hc, hLiteral⟩ := exists_of_soleLiteral h
      have := Node.size_lt_of_mem (n := .mk label children) hc
      exact (holdsBeyond_of_literal? hLiteral).of_mem_children hc
    · exact holdsBeyond_of_numberValue (map_eq_error.mp h)
termination_by n => n.size

/-- The value of a numeral after a mark of its base, without low lines and without a suffix. -/
theorem numeralValue_of_mark {mark : Char} {base : Nat} (hMark : baseOf? mark = some base)
    {digits : List Char}
    (no_low_line : ('0' :: mark :: digits).filter (· != '_') = '0' :: mark :: digits)
    (no_suffix : (('0' :: mark :: digits).reverse.dropWhile (· == 'n')).reverse =
      '0' :: mark :: digits) :
    numeralValue (String.ofList ('0' :: mark :: digits)) = wholeValue base digits := by
  unfold numeralValue
  rw [String.toList_ofList, no_low_line]
  dsimp only
  rw [no_suffix]
  simp only [hMark]

/-- A numeral that is too large is a literal without a value. -/
theorem Node.literal?_eq_error : ∀ {n : Node}, n.kind = "number" →
    numeralValue n.text = .error {} → n.literal? = .error {}
  | .mk label children, hKind, hValue => by
    have kind_eq : label.kind = "number" := hKind
    have value : (Node.mk label children).numberValue = .error {} := by
      rw [numberValue, if_neg (by rw [kind_eq]; decide), if_pos (by rw [kind_eq]; decide)]
      exact hValue
    rw [literal?, if_neg (by simp [kind_eq]), value]
    rfl

end Syntax

/-! ### The literals that are looked at -/

/-- The arguments of a call that are looked at; none if they are not in parentheses. -/
def Body.argumentsOf (n : Node) : List Node :=
  if n.isOneOf ["call_expression", "new_expression"] then
    (((n.child? "arguments").filter (·.kind == "arguments")).map Node.operands).getD []
  else []

/-- The entries of a table that are looked at. -/
def Suite.entriesOf (table : Node) : List Node :=
  table.nodes.filter (!·.isOneOf ["array", "object"])

/-- **The nodes whose literals the reading of a test looks at**: what its body passes to calls, and
the entries of its table. -/
def Block.literalNodes (b : Block) : List Node :=
  ((b.callback.bind Body.of?).map (·.nodes.flatMap Body.argumentsOf)).getD [] ++
    (b.table.map Suite.entriesOf).getD []

/-- The nodes of the tests of an item. -/
def Item.literalNodes : Item → List Node
  | .block b _ _ => if b.kind == .test then b.literalNodes else []
  | .call _ | .declaration _ _ => []

/-- **The nodes of a file whose literals are looked at.** -/
def testLiterals (root : Node) : List Node :=
  (outline root).flatMap Item.literalNodes

theorem exists_mem_flatMap {α β : Type} {xs : List α} {f : α → List β} {p : β → Prop} :
    (∃ y ∈ xs.flatMap f, p y) ↔ ∃ x ∈ xs, ∃ y ∈ f x, p y := by
  simp only [List.mem_flatMap]
  constructor
  · rintro ⟨y, ⟨x, hx, hy⟩, h⟩
    exact ⟨x, hx, y, hy, h⟩
  · rintro ⟨x, hx, y, hy, h⟩
    exact ⟨y, ⟨x, hx, hy⟩, h⟩

theorem literalsFrom_eq_error_iff {nodes : List Node} : ∀ {position : Nat},
    Body.literalsFrom position nodes = .error {} ↔ ∃ n ∈ nodes, n.literal? = .error {} := by
  induction nodes with
  | nil => simp [Body.literalsFrom]
  | cons n nodes ih =>
    intro position
    rw [Body.literalsFrom,
      bind_eq_error_iff fun _ => bind_eq_error_iff fun _ => pure_eq_error_iff, ih, or_false]
    simp

theorem literalCall?_eq_error_iff {roles : List ((Nat × Nat) × ArgsRole)} {n : Node} :
    Body.literalCall? roles n = .error {} ↔
      ∃ m ∈ Body.argumentsOf n, m.literal? = .error {} := by
  unfold Body.literalCall? Body.argumentsOf
  cases n.isOneOf ["call_expression", "new_expression"] with
  | false => simp
  | true =>
    simp only [Bool.not_true, Bool.false_eq_true, if_false, if_true]
    cases (n.child? "arguments").filter (·.kind == "arguments") with
    | none => simp
    | some args =>
      dsimp only
      rw [bind_eq_error_iff fun _ => pure_eq_error_iff, literalsFrom_eq_error_iff, or_false]
      rfl

theorem literalCalls_eq_error_iff {body : Body} :
    body.literalCalls = .error {} ↔
      ∃ n ∈ body.nodes.flatMap Body.argumentsOf, n.literal? = .error {} := by
  rw [Body.literalCalls, bind_eq_error_iff fun _ => pure_eq_error_iff, mapM_eq_error_iff, or_false,
    exists_mem_flatMap]
  simp only [literalCall?_eq_error_iff]

theorem tableLiteral?_eq_error_iff {index : Nat} {l : Located} :
    Suite.tableLiteral? index l = .error {} ↔
      l.node.isOneOf ["array", "object"] = false ∧ l.node.literal? = .error {} := by
  unfold Suite.tableLiteral?
  cases l.node.isOneOf ["array", "object"] with
  | false => simp [map_eq_error]
  | true => simp

theorem tableLiterals_eq_error_iff {index : Nat} {table : Node} :
    Suite.tableLiterals index table = .error {} ↔
      ∃ n ∈ Suite.entriesOf table, n.literal? = .error {} := by
  rw [Suite.tableLiterals, bind_eq_error_iff fun _ => pure_eq_error_iff, mapM_eq_error_iff,
    or_false]
  simp only [tableLiteral?_eq_error_iff, Suite.entriesOf, List.mem_filter, Bool.not_eq_true']
  constructor
  · rintro ⟨l, hl, hKind, h⟩
    exact ⟨l.node, ⟨List.mem_map_of_mem hl, hKind⟩, h⟩
  · rintro ⟨n, ⟨hn, hKind⟩, h⟩
    obtain ⟨l, hl, rfl⟩ := List.mem_map.mp hn
    exact ⟨l, hl, hKind, h⟩

theorem readTest_eq_error_iff {index : Nat} {b : Block} {call : Node} {place : Place} :
    Suite.readTest index b call place = .error {} ↔
      ∃ n ∈ b.literalNodes, n.literal? = .error {} := by
  unfold Suite.readTest
  dsimp only
  rw [bind_eq_error_iff fun _ => bind_eq_error_iff fun _ => pure_eq_error_iff, or_false]
  have calls : ((b.callback.bind Body.of?).map Body.literalCalls).getD (.ok []) = .error {} ↔
      ∃ n ∈ ((b.callback.bind Body.of?).map (·.nodes.flatMap Body.argumentsOf)).getD [],
        n.literal? = .error {} := by
    cases b.callback.bind Body.of? with
    | none => simp
    | some body => exact literalCalls_eq_error_iff
  have rows : (b.table.map (Suite.tableLiterals index)).getD (.ok []) = .error {} ↔
      ∃ n ∈ (b.table.map Suite.entriesOf).getD [], n.literal? = .error {} := by
    cases b.table with
    | none => simp
    | some table => exact tableLiterals_eq_error_iff
  rw [calls, rows, Block.literalNodes]
  simp only [List.mem_append, or_and_right, exists_or]

theorem readTests_eq_error_iff {items : List (Nat × Item)} :
    Suite.readTests items = .error {} ↔
      ∃ n ∈ (items.map (·.2)).flatMap Item.literalNodes, n.literal? = .error {} := by
  induction items with
  | nil => simp [Suite.readTests]
  | cons item items ih =>
    rw [List.map_cons, List.flatMap_cons]
    simp only [List.mem_append, or_and_right, exists_or]
    rw [← ih]
    match item with
    | (index, .block b call place) =>
      rw [Suite.readTests, Item.literalNodes]
      cases b.kind == .test with
      | false => simp
      | true =>
        rw [if_pos rfl, if_pos rfl, bind_eq_error_iff fun _ => bind_eq_error_iff fun _ =>
          pure_eq_error_iff, readTest_eq_error_iff, or_false]
    | (_, .call _) => simp [Suite.readTests, Item.literalNodes]
    | (_, .declaration _ _) => simp [Suite.readTests, Item.literalNodes]

theorem map_snd_numberedFrom (items : List Item) (index : Nat) :
    (Suite.numberedFrom index items).map (·.2) = items := by
  induction items generalizing index with
  | nil => rfl
  | cons item items ih => rw [Suite.numberedFrom, List.map_cons, ih]

theorem ofOutline_eq_error_iff {items : List Item} :
    Suite.ofOutline items = .error {} ↔
      ∃ n ∈ items.flatMap Item.literalNodes, n.literal? = .error {} := by
  unfold Suite.ofOutline
  dsimp only
  rw [bind_eq_error_iff fun _ => pure_eq_error_iff, readTests_eq_error_iff, map_snd_numberedFrom,
    or_false]

section

variable {parse : Parser} {path : Text} {content : Content} {framework : Option Framework}

variable (parse path content framework) in
/-- **What reading a file comes to**: it is refused, or it is text in a known grammar and what its
tree gives. -/
theorem read_cases :
    ((Grammar.ofPath? path = none ∨ content.string? = none) ∧
      ∃ detail, Suite.read parse path content framework = .error (.unsupported path detail)) ∨
    ∃ grammar text, Grammar.ofPath? path = some grammar ∧ content.string? = some text ∧
      Suite.read parse path content framework =
        (Suite.ofTree path text framework (parse grammar text)).mapError .tooLarge := by
  unfold Suite.read
  cases Grammar.ofPath? path with
  | none => exact .inl ⟨.inl rfl, _, rfl⟩
  | some grammar =>
    cases content.string? with
    | none => exact .inl ⟨.inr rfl, _, rfl⟩
    | some text => exact .inr ⟨grammar, text, rfl, rfl, rfl⟩

/-- **A suite that was read** is that of the outline of its tree, with the lines of its text. -/
theorem exists_ofOutline_of_read {s : Suite}
    (h : Suite.read parse path content framework = .ok s) :
    ∃ grammar text outlined, Grammar.ofPath? path = some grammar ∧ content.string? = some text ∧
      Suite.ofOutline (outline (parse grammar text).root) = .ok outlined ∧
      s = { outlined with
        path
        framework := s.framework
        imports := importsOf (parse grammar text).root
        lines := Text.lines text
        recovered := (parse grammar text).recovered } := by
  rcases read_cases parse path content framework with
    ⟨-, detail, hRead⟩ | ⟨grammar, text, hGrammar, hText, hRead⟩
  · rw [hRead] at h
    cases h
  · rw [hRead] at h
    cases hTree : Suite.ofTree path text framework (parse grammar text) with
    | error number =>
      rw [hTree] at h
      cases h
    | ok found =>
      rw [hTree] at h
      obtain rfl : found = s := Except.ok.inj h
      rw [Suite.ofTree, bind_eq_ok] at hTree
      obtain ⟨outlined, hOutline, hTree⟩ := hTree
      obtain rfl := Except.ok.inj hTree
      exact ⟨grammar, text, outlined, hGrammar, hText, hOutline, rfl⟩

theorem ofTree_eq_error_iff {text : String} {tree : Tree} :
    Suite.ofTree path text framework tree = .error {} ↔
      ∃ n ∈ testLiterals tree.root, n.literal? = .error {} := by
  rw [Suite.ofTree, bind_eq_error_iff fun _ => pure_eq_error_iff, ofOutline_eq_error_iff, or_false]
  rfl

/-- **A file that is text in a known grammar cannot be read where a literal that its tests pass has
no value**, and only there. -/
theorem read_eq_tooLarge_iff :
    Suite.read parse path content framework = .error (.tooLarge {}) ↔
      ∃ grammar text, Grammar.ofPath? path = some grammar ∧ content.string? = some text ∧
        ∃ n ∈ testLiterals (parse grammar text).root, n.literal? = .error {} := by
  rcases read_cases parse path content framework with
    ⟨unread, detail, hRead⟩ | ⟨grammar, text, hGrammar, hText, hRead⟩
  · rw [hRead]
    rcases unread with h | h <;> simp [Suite.ReadError.unsupported, h]
  · have of_tree : (Suite.ofTree path text framework (parse grammar text)).mapError
        Suite.ReadError.tooLarge = .error (.tooLarge {}) ↔
          Suite.ofTree path text framework (parse grammar text) = .error {} := by
      cases Suite.ofTree path text framework (parse grammar text) with
      | error number => exact iff_of_true rfl rfl
      | ok found => exact iff_of_false (fun h => by cases h) fun h => by cases h
    rw [hRead, of_tree, ofTree_eq_error_iff]
    simp [hGrammar, hText]

end

/-! ### Where they stand in the tree -/

theorem mem_nodes_of_mem_argumentsOf {m n : Node} (h : m ∈ Body.argumentsOf n) : m ∈ n.nodes := by
  unfold Body.argumentsOf at h
  split at h
  · cases hArgs : (n.child? "arguments").filter (·.kind == "arguments") with
    | none => simp [hArgs] at h
    | some args =>
      rw [hArgs] at h
      exact Node.mem_nodes_trans (mem_nodes_of_mem_operands h)
        (Node.mem_nodes_of_child? (Option.eq_some_of_filter_eq_some hArgs))
  · cases h

/-- The literals of a block are parts of the call that opens it. -/
theorem mem_nodes_of_mem_literalNodes {call n : Node} {b : Block} (h : Block.ofCall? call = some b)
    (hn : n ∈ b.literalNodes) : n ∈ call.nodes := by
  obtain ⟨callback_mem, table_mem⟩ := mem_nodes_of_ofCall? h
  rcases List.mem_append.mp hn with hn | hn
  · cases hBody : b.callback.bind Body.of? with
    | none => simp [hBody] at hn
    | some body =>
      obtain ⟨callback, hCallback, hOf⟩ := Option.bind_eq_some_iff.mp hBody
      obtain ⟨root, hRoot, rfl⟩ := Option.map_eq_some_iff.mp hOf
      rw [hBody] at hn
      obtain ⟨m, hm, hn⟩ := List.mem_flatMap.mp hn
      have hm : m ∈ root.nodes := by
        rwa [Body.nodes, map_node_places] at hm
      exact Node.mem_nodes_trans (mem_nodes_of_mem_argumentsOf hn)
        (Node.mem_nodes_trans hm (Node.mem_nodes_trans (Node.mem_nodes_of_child? hRoot)
          (callback_mem _ hCallback)))
  · cases hTable : b.table with
    | none => simp [hTable] at hn
    | some table =>
      rw [hTable] at hn
      exact Node.mem_nodes_trans (List.mem_filter.mp hn).1 (table_mem _ hTable)

/-- **The literals that are looked at are nodes of the tree.** -/
theorem mem_nodes_of_mem_testLiterals {root n : Node} (h : n ∈ testLiterals root) :
    n ∈ root.nodes := by
  obtain ⟨item, hItem, hn⟩ := List.mem_flatMap.mp h
  match item with
  | .block b call place =>
    obtain ⟨opened, p, hp, hCall⟩ := exists_of_mem_itemsFrom hItem
    obtain ⟨child, hChild, rfl⟩ := List.mem_map.mp hp
    rw [Item.literalNodes] at hn
    split at hn
    · exact Node.mem_nodes_trans (mem_nodes_of_mem_literalNodes opened hn)
        (Node.mem_nodes_of_mem_children hCall hChild)
    · cases hn
  | .call _ => cases hn
  | .declaration _ _ => cases hn

/-- **A tree that cannot be read holds a numeral beyond the doubles.** -/
theorem holdsBeyond_of_read {parse : Parser} {path : Text} {content : Content}
    {framework : Option Framework} {grammar : Grammar} {text : String}
    (h : Suite.read parse path content framework = .error (.tooLarge {}))
    (hGrammar : Grammar.ofPath? path = some grammar) (hText : content.string? = some text) :
    (parse grammar text).root.HoldsBeyond := by
  obtain ⟨g, t, hg, ht, n, hn, hLiteral⟩ := read_eq_tooLarge_iff.mp h
  obtain rfl : grammar = g := Option.some.inj (hGrammar.symm.trans hg)
  obtain rfl : text = t := Option.some.inj (hText.symm.trans ht)
  exact (Node.holdsBeyond_of_literal? hLiteral).of_mem (mem_nodes_of_mem_testLiterals hn)

end SuiteAudit
