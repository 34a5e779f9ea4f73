import SuiteAudit.Proofs.Openings

/-!
# Blocks without their focus

The mending edit of a focused block names it again without its focus. The words of a callee that
opens a block are known and hold no dots, so the dotted text has the same words as the path
(`splitAt_join`), and without `only` and the letter in front it begins like that of a block of the
same kind (`unfocused_of_mem_fronts`). So the block that is left differs from the focused one in its
focus and in nothing else (`unfocused_block`).
-/

namespace SuiteAudit

open Syntax

/-! ### Words with dots between them -/

namespace Chars

/-- A word without separators goes to the current piece as a whole. -/
theorem splitFrom_append {p : CodePoint → Bool} {word : List CodePoint}
    (h : ∀ c ∈ word, p c = false) (piece rest : List CodePoint) :
    splitFrom p piece (word ++ rest) = splitFrom p (word.reverse ++ piece) rest := by
  induction word generalizing piece with
  | nil => rfl
  | cons c word ih =>
    obtain ⟨hc, hWord⟩ := List.forall_mem_cons.mp h
    rw [List.cons_append, splitFrom, hc, if_neg Bool.false_ne_true, ih hWord,
      List.reverse_cons, List.append_assoc]
    rfl

/-- **Words are found again between separators** that none of them holds. -/
theorem split_words {separator : CodePoint} {word : List CodePoint} {words : List (List CodePoint)}
    (h : ∀ w ∈ word :: words, separator ∉ w) :
    split (· == separator) (word ++ words.flatMap (separator :: ·)) = word :: words := by
  have apart (w : List CodePoint) (hw : separator ∉ w) : ∀ c ∈ w, (c == separator) = false :=
    fun c hc => beq_eq_false_iff_ne.mpr fun hEq => hw (hEq ▸ hc)
  induction words generalizing word with
  | nil =>
    rw [split, splitFrom_append (apart word (h word List.mem_cons_self)), List.flatMap_nil,
      splitFrom, List.append_nil, List.reverse_reverse]
  | cons next words ih =>
    obtain ⟨hWord, hRest⟩ := List.forall_mem_cons.mp h
    rw [split, splitFrom_append (apart word hWord), List.flatMap_cons, List.cons_append, splitFrom,
      if_pos (beq_self_eq_true separator), ← split, ih hRest, List.append_nil,
      List.reverse_reverse]

end Chars

namespace Text

/-- **The words of a dotted text**, if none of them holds a dot. -/
theorem splitAt_join {words : List Text} (hWords : words ≠ [])
    (h : ∀ w ∈ words, CodePoint.char '.' ∉ w.points) : splitAt '.' (join "." words) = words := by
  cases words with
  | nil => exact absurd rfl hWords
  | cons word words =>
    have dotted : (join "." (word :: words)).points =
        word.points ++ (words.map points).flatMap (CodePoint.char '.' :: ·) := by
      rw [List.flatMap_map]
      rfl
    rw [splitAt, dotted, Chars.split_words (by simpa using h), List.map_cons, List.map_map]
    exact congrArg (word :: ·) (List.map_id words)

end Text

/-! ### Calls of something else -/

namespace Syntax.Node

/-- The node where it fills a field. -/
def filling (n : Node) (field : String) : Node :=
  .mk { n.label with field } n.children

/-- The nodes with another one in the place of the first that fills a field. -/
def replaceFirst (field : String) (new : Node) : List Node → List Node
  | [] => []
  | c :: rest =>
    if c.field == field then new.filling field :: rest else c :: replaceFirst field new rest

/-- **The node with another child in a field.** -/
def setChild (n : Node) (field : String) (new : Node) : Node :=
  .mk n.label (replaceFirst field new n.children)

section

variable {n new old : Node} {field other : String}

@[simp] theorem kind_filling : (n.filling field).kind = n.kind := rfl

@[simp] theorem child?_filling : (n.filling field).child? other = n.child? other := rfl

/-- What a node names does not depend on the field that it fills. -/
@[simp] theorem path?_filling : (n.filling field).path? = n.path? := by
  obtain ⟨label, children⟩ := n
  rw [filling, path?, path?]
  rfl

@[simp] theorem kind_setChild : (n.setChild field new).kind = n.kind := rfl

theorem child?_setChild (h : n.child? field = some old) :
    (n.setChild field new).child? field = some (new.filling field) := by
  rw [child?] at h
  show (replaceFirst field new n.children).find? _ = _
  generalize n.children = children at h
  induction children with
  | nil => cases h
  | cons c rest ih =>
    rw [replaceFirst]
    cases hc : c.field == field with
    | true => exact List.find?_cons_of_pos (beq_self_eq_true field)
    | false =>
      rw [List.find?_cons, hc] at h
      rw [if_neg Bool.false_ne_true, List.find?_cons, hc]
      exact ih h

/-- The other fields are filled as before. -/
theorem child?_setChild_of_ne (h : field ≠ other) :
    (n.setChild field new).child? other = n.child? other := by
  show (replaceFirst field new n.children).find? _ = n.children.find? _
  induction n.children with
  | nil => rfl
  | cons c rest ih =>
    rw [replaceFirst]
    cases hc : c.field == field with
    | true =>
      have unlike : (field == other) = false := beq_eq_false_iff_ne.mpr h
      have unlike_new : ((new.filling field).field == other) = false := unlike
      have unlike_old : (c.field == other) = false := by rw [eq_of_beq hc, unlike]
      rw [if_pos rfl, List.find?_cons, List.find?_cons, unlike_new, unlike_old]
    | false => rw [if_neg Bool.false_ne_true, List.find?_cons, List.find?_cons, ih]

/-- What has a path is not called. -/
theorem kind_ne_of_path? {path : List Text} (h : n.path? = some path) :
    n.kind ≠ "call_expression" := by
  obtain ⟨label, children⟩ := n
  intro hKind
  have label_kind : label.kind = "call_expression" := hKind
  rw [path?] at h
  simp [isOneOf, fixedProperty?, kind, Node.label, label_kind] at h

end

end Syntax.Node

namespace Block

/-- **The call with another callee**: of a call with a table, what is called before the table. -/
def withCallee (call new : Node) : Node :=
  match call.child? "function" with
  | none => call
  | some callee =>
    call.setChild "function" <|
      if callee.kind == "call_expression" then callee.setChild "function" new else new

theorem arguments_withCallee (call new : Node) :
    (withCallee call new).arguments = call.arguments := by
  unfold withCallee
  split
  · rfl
  · rw [Node.arguments, Node.child?_setChild_of_ne (by decide), Node.arguments]

/-- **A call that names something else** has the new names and the old table. -/
theorem naming?_withCallee {call new : Node} {naming : Naming} {path : List Text}
    (h : naming? call = some naming) (hPath : new.path? = some path) (hWords : path ≠ [])
    (last : naming.path.getLast? = some ("each" : Text) → path.getLast? = some ("each" : Text))
    (noTable : ("each" : Text) ∉ naming.path → ("each" : Text) ∉ path) :
    naming? (withCallee call new) =
      some { calleeNode := new.filling "function", path, table := naming.table } := by
  unfold naming? at h
  simp only [Option.bind_eq_bind, Option.bind_eq_some_iff] at h
  obtain ⟨callee, hCallee, h⟩ := h
  rw [withCallee, hCallee]
  dsimp only
  split at h
  · next hCalled =>
    obtain ⟨inner, hInner, h⟩ := Option.bind_eq_some_iff.mp h
    obtain ⟨before, -, h⟩ := Option.bind_eq_some_iff.mp h
    split at h
    · next hLast =>
      obtain rfl := Option.some.inj h
      have table_eq : (callee.setChild "function" new).child? "arguments" =
          callee.child? "arguments" := Node.child?_setChild_of_ne (by decide)
      rw [if_pos hCalled, naming?, Node.child?_setChild hCallee]
      simp only [Option.bind_eq_bind, Option.bind_some, Node.kind_filling, Node.kind_setChild,
        hCalled, if_true, Node.child?_filling, Node.child?_setChild hInner, Node.path?_filling,
        hPath, last (eq_of_beq hLast), table_eq, Option.pure_def, beq_self_eq_true]
    · cases h
  · next hCalled =>
    obtain ⟨before, -, h⟩ := Option.bind_eq_some_iff.mp h
    split at h
    · cases h
    · next hEach =>
      obtain rfl := Option.some.inj h
      simp only [Bool.or_eq_true, List.contains_iff_mem, not_or] at hEach
      have no_each : ("each" : Text) ∉ path := noTable hEach.2
      rw [if_neg hCalled, naming?, Node.child?_setChild hCallee]
      simp [Node.kind_ne_of_path? hPath, hPath, hWords, no_each]

end Block

/-! ### Paths without their focus -/

namespace Block

/-- **A path without its focus**: no `only`, and no letter in front of a root that focuses. -/
def unfocused (path : List Text) : List Text :=
  match path.filter fun (word : Text) => word != "only" with
  | [] => []
  | root :: rest => unfocusedRoot root :: rest

/-- **What a path begins with loses its focus alone**: what is left is the beginning of the same
kind of block, has no focus to lose, and starts with an `x` if it did before. -/
theorem unfocused_of_mem_fronts {kind : BlockKind} :
    ∀ front ∈ fronts kind, unfocused front ∈ fronts kind ∧
      unfocused (unfocused front) = unfocused front ∧
      focusRoots.contains ((unfocused front).headD "") = false ∧
      Text.startsWith ((unfocused front).headD "") "x" = Text.startsWith (front.headD "") "x" := by
  cases kind with
  | describe => decide
  | test => decide
  | hook hook => exact fun _ h => absurd h List.not_mem_nil

/-- The words in front are kept, and of those behind all but `only`. -/
theorem unfocused_append {kind : BlockKind} (rest : List Text) :
    ∀ front ∈ fronts kind, unfocused (front ++ rest) =
      unfocused front ++ rest.filter fun (word : Text) => word != "only" := by
  intro front hFront
  have whole : (front.filter fun (word : Text) => word != "only") = front ∧ front ≠ [] := by
    revert front
    cases kind with
    | describe => decide
    | test => decide
    | hook hook => exact fun _ h => absurd h List.not_mem_nil
  rw [unfocused, unfocused, List.filter_append, whole.1]
  cases front with
  | nil => exact absurd rfl whole.2
  | cons root front => rfl

/-- The words of a block's callee, after those it begins with. -/
theorem splitAt_join_of_mem_fronts {kind : BlockKind} {front rest : List Text}
    (hFront : front ∈ fronts kind) (hRest : ∀ w ∈ rest, w ∈ modifiers) :
    Text.splitAt '.' (Text.join "." (front ++ rest)) = front ++ rest := by
  obtain ⟨hWords, -, hKnown⟩ := words_of_mem_fronts front hFront
  refine Text.splitAt_join (fun h => hWords (List.append_eq_nil_iff.mp h).1) fun w hw => ?_
  rcases List.mem_append.mp hw with hw | hw
  · exact no_dot_of_mem_openingWords w (hKnown w hw)
  · exact no_dot_of_mem_openingWords w (List.mem_append_right _ (hRest w hw))

/-- **The dotted text of a callee loses its focus as the path does.** -/
theorem unfocusedCallee_eq {m : Marker} {path : List Text}
    (h : Text.splitAt '.' m.callee = path) :
    m.unfocusedCallee = Text.join "." (unfocused path) := by
  rw [Marker.unfocusedCallee, h, unfocused]
  cases path.filter fun (word : Text) => word != "only" with
  | nil => rfl
  | cons root words => rfl

theorem mem_modifiers_of_filter {rest : List Text} (h : ∀ w ∈ rest, w ∈ modifiers) :
    ∀ w ∈ rest.filter fun (word : Text) => word != "only", w ∈ modifiers :=
  fun w hw => h w (List.mem_filter.mp hw).1

/-- A path that ends in `each` still does. -/
theorem getLast?_unfocused {kind : BlockKind} {front rest : List Text}
    (hFront : front ∈ fronts kind)
    (h : (front ++ rest).getLast? = some ("each" : Text)) :
    (unfocused (front ++ rest)).getLast? = some ("each" : Text) := by
  obtain ⟨-, no_each, -⟩ := words_of_mem_fronts front hFront
  rcases List.eq_nil_or_concat rest with rfl | ⟨init, last, rfl⟩
  · rw [List.append_nil] at h
    exact absurd (List.mem_of_getLast? h) no_each
  · rw [List.concat_eq_append, ← List.append_assoc, List.getLast?_append] at h
    obtain rfl : last = "each" := by simpa using h
    rw [unfocused_append _ front hFront, List.concat_eq_append, List.filter_append,
      ← List.append_assoc, List.getLast?_append]
    rfl

theorem not_mem_each_unfocused {kind : BlockKind} {front rest : List Text}
    (hFront : front ∈ fronts kind) (h : ("each" : Text) ∉ front ++ rest) :
    ("each" : Text) ∉ unfocused (front ++ rest) := by
  obtain ⟨-, no_each, -⟩ := words_of_mem_fronts _ (unfocused_of_mem_fronts front hFront).1
  rw [unfocused_append _ front hFront, List.mem_append, List.mem_filter]
  rintro (hEach | hEach)
  · exact no_each hEach
  · exact h (List.mem_append_right front hEach.1)

/-- A path has the root that it begins with. -/
theorem headD_append_of_mem_fronts {kind : BlockKind} {front : List Text} (rest : List Text)
    (hFront : front ∈ fronts kind) : (front ++ rest).headD "" = front.headD "" := by
  cases front with
  | nil => exact absurd rfl (words_of_mem_fronts [] hFront).1
  | cons root words => rfl

/-- **Nothing more is taken away** from a path without its focus. -/
theorem unfocused_unfocused {kind : BlockKind} {front : List Text} (rest : List Text)
    (hFront : front ∈ fronts kind) :
    unfocused (unfocused (front ++ rest)) = unfocused (front ++ rest) := by
  obtain ⟨left, again, -⟩ := unfocused_of_mem_fronts front hFront
  rw [unfocused_append rest front hFront, unfocused_append _ _ left, again, List.filter_filter]
  simp

theorem contains_filter_of_ne (word : Text) (h : word ≠ "only") (rest : List Text) :
    (rest.filter fun (word : Text) => word != "only").contains word = rest.contains word := by
  rw [Bool.eq_iff_iff]
  simp [h]

theorem contains_filter_only (rest : List Text) :
    (rest.filter fun (word : Text) => word != "only").contains ("only" : Text) = false := by
  rw [Bool.eq_false_iff]
  simp

/-! ### The block that is left -/

/-- **A focused block without its focus is the same block.** Whatever node has the words of the text
that the mending edit puts in for the callee, the call of it opens a block again, which has the
kind, title, callback, marks and table of the focused one and no focus. Its own callee is that text,
from which nothing more is taken away. -/
theorem unfocused_block {call callee : Node} {b : Block} {block : MarkerBlock}
    (h : ofCall? call = some b) (hFocused : b.focused = true)
    (hNames : callee.path? =
      some (Text.splitAt '.' (Suite.markerOf block b).unfocusedCallee)) :
    ∃ other, ofCall? (withCallee call callee) = some other ∧
      other = { b with path := other.path, calleeNode := callee.filling "function"
                       focused := false } ∧
      other.callee = (Suite.markerOf block b).unfocusedCallee ∧
      (Suite.markerOf block other).unfocusedCallee = other.callee := by
  rcases ofCall?_cases h with ⟨kind, naming, rfl⟩ | ⟨naming, front, rest, hNaming, hPath, hFront,
    hRest, titled⟩
  · cases hFocused
  rw [titled?_eq hRest, hPath] at titled
  have block_eq := (Option.some.inj titled).symm
  have hKind (hook : HookKind) : b.kind ≠ .hook hook := by
    intro hEq
    rw [hEq] at hFront
    exact absurd hFront List.not_mem_nil
  -- What is left begins like a block of the same kind, and modifiers follow.
  obtain ⟨left, -, no_focus, same_letter⟩ := unfocused_of_mem_fronts front hFront
  have left_rest := mem_modifiers_of_filter hRest
  have left_eq := unfocused_append rest front hFront
  have callee_eq : (Suite.markerOf block b).unfocusedCallee =
      Text.join "." (unfocused (front ++ rest)) := by
    apply unfocusedCallee_eq
    rw [Suite.markerOf, Block.callee, block_eq]
    exact splitAt_join_of_mem_fronts hFront hRest
  have words_eq : Text.splitAt '.' (Text.join "." (unfocused (front ++ rest))) =
      unfocused (front ++ rest) := by
    rw [left_eq]
    exact splitAt_join_of_mem_fronts left left_rest
  rw [callee_eq, words_eq] at hNames
  have left_words : unfocused (front ++ rest) ≠ [] := by
    rw [left_eq]
    exact fun hNil => (words_of_mem_fronts _ left).1 (List.append_eq_nil_iff.mp hNil).1
  have hLeft := naming?_withCallee hNaming hNames left_words
    (fun hLast => getLast?_unfocused hFront (hPath ▸ hLast))
    (fun hEach => not_mem_each_unfocused hFront (hPath ▸ hEach))
  have opens : opening? (unfocused (front ++ rest)) =
      some (b.kind, rest.filter fun (word : Text) => word != "only") :=
    (opening?_eq_some_iff hKind left_rest).mpr ⟨_, left, left_eq⟩
  refine ⟨{ b with path := unfocused (front ++ rest), calleeNode := callee.filling "function"
                   focused := false }, ?_, rfl, callee_eq.symm, ?_⟩
  · rw [ofCall?_of_opening hKind hLeft opens, titled?_eq left_rest, arguments_withCallee]
    dsimp only
    rw [left_eq, headD_append_of_mem_fronts _ left, no_focus, same_letter,
      contains_filter_of_ne "skip" (by decide), contains_filter_of_ne "fixme" (by decide),
      contains_filter_of_ne "todo" (by decide), contains_filter_only,
      ← headD_append_of_mem_fronts rest hFront, block_eq]
    rfl
  · rw [unfocusedCallee_eq words_eq, unfocused_unfocused rest hFront]
    rfl

/-- The call of a focused test for each row of a table: `it['only'].each([1])('adds', () => 0)`. -/
def onlyEachCall : Node :=
  let node (kind field text : String) (children : List Node) : Node :=
    .mk { kind, field, text } children
  let root : Node :=
    node "subscript_expression" "object" "it['only']"
      [node "identifier" "object" "it" [], node "string" "index" "'only'" []]
  node "call_expression" "" ""
    [node "call_expression" "function" ""
        [node "member_expression" "function" ""
            [root, node "property_identifier" "property" "each" []],
          node "arguments" "arguments" "" [node "array" "" "[1]" [node "number" "" "1" []]]],
      node "arguments" "arguments" ""
        [node "string" "" "'adds'" [],
          node "arrow_function" "" "" [node "number" "body" "0" []]]]

/-- The callee `it.each`. -/
def eachCallee : Node :=
  let node (kind field text : String) (children : List Node) : Node :=
    .mk { kind, field, text } children
  node "member_expression" "" "it.each"
    [node "identifier" "object" "it" [], node "property_identifier" "property" "each" []]

/-- That call is left with `it.each` for a callee, and with its table. -/
theorem unfocused_block_each : ∃ b other, ofCall? onlyEachCall = some b ∧ b.focused = true ∧
    (Suite.markerOf .test b).unfocusedCallee = "it.each" ∧
    ofCall? (withCallee onlyEachCall eachCallee) = some other ∧ other.callee = "it.each" ∧
    other.table = b.table ∧ other.focused = false := by
  have opens : (ofCall? onlyEachCall).map
      (fun b => (b.focused, (Suite.markerOf .test b).unfocusedCallee)) =
        some (true, ("it.each" : Text)) := by
    decide +kernel
  obtain ⟨b, hOpen, marks⟩ := Option.map_eq_some_iff.mp opens
  obtain ⟨hFocused, hCallee⟩ := Prod.mk.inj marks
  have names : eachCallee.path? =
      some (Text.splitAt '.' (Suite.markerOf .test b).unfocusedCallee) := by
    rw [hCallee]
    decide +kernel
  obtain ⟨other, hOther, same, callee_eq, -⟩ := unfocused_block hOpen hFocused names
  refine ⟨b, other, hOpen, hFocused, hCallee, hOther, callee_eq.trans hCallee, ?_, ?_⟩
  · rw [same]
  · rw [same]

end Block

end SuiteAudit
