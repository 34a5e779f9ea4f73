import SuiteAudit.Proofs.BlockScopes
import SuiteAudit.Proofs.Openings

/-!
# Tests without a function

A test is skipped where the words of its own call or of a describe block around it say so, or where
there is nothing to run. The words are those of the callee (`skipped_iff_marked`). But what there is
to run is looked for among functions that stand in the call itself, so a test is skipped as well if
its callback is passed by name or made by another call (`skipped_without_function`).
-/

namespace SuiteAudit

open Syntax Outline

namespace Block

/-! ### Marks -/

/-- **A block is marked as skipped** by the words of its callee: by an `x` in front, or by a
modifier. -/
def Marked (b : Block) : Prop :=
  Text.startsWith (b.path.headD "") "x" = true ∨ ("skip" : Text) ∈ b.path ∨
    ("fixme" : Text) ∈ b.path

/-- The words that a path begins with are no modifiers. -/
theorem no_modifier_of_mem_fronts {kind : BlockKind} :
    ∀ front ∈ fronts kind, ∀ w ∈ modifiers, w ∉ front := by
  cases kind with
  | describe => decide
  | test => decide
  | hook hook => exact fun _ h => absurd h List.not_mem_nil

/-- **A describe block or test is skipped if it is marked so**, and only then. -/
theorem skipped_iff_marked {call : Node} {b : Block} (h : ofCall? call = some b)
    (hKind : ∀ hook, b.kind ≠ .hook hook) : b.skipped = true ↔ b.Marked := by
  rcases ofCall?_cases h with ⟨kind, naming, rfl⟩ | ⟨naming, front, rest, -, hPath, hFront, hRest,
    titled⟩
  · exact absurd rfl (hKind kind)
  · rw [titled?_eq hRest] at titled
    have block_eq := (Option.some.inj titled).symm
    have path_eq : b.path = naming.path := by rw [block_eq]
    have skipped_eq : b.skipped = (Text.startsWith (naming.path.headD "") "x" ||
        rest.contains "skip" || rest.contains "fixme") := by rw [block_eq]
    have behind {word : Text} (hWord : word ∈ modifiers) : word ∈ b.path ↔ word ∈ rest := by
      rw [path_eq, hPath, List.mem_append,
        or_iff_right (no_modifier_of_mem_fronts front hFront word hWord)]
    rw [Marked, behind (by decide), behind (by decide), path_eq, skipped_eq]
    simp only [Bool.or_eq_true, List.contains_iff_mem, or_assoc]

/-! ### Callbacks -/

theorem callbackOf_eq_none_iff {arguments : List Node} :
    callbackOf arguments = none ↔ ∀ n ∈ arguments, n.isFunction = false := by
  rw [callbackOf, List.getLast?_eq_none_iff, List.filter_eq_nil_iff]
  simp only [Bool.not_eq_true]

end Block

/-! ### Tests -/

namespace PlacedBlock

/-- **The text tells that the test is skipped**: a describe block around it is marked so, or its own
call, or it has nothing but a title. -/
def ToldSkipped (p : PlacedBlock) (around : List Block) : Prop :=
  (∃ b ∈ around, b.Marked) ∨ p.block.Marked ∨ p.call.arguments.tail = []

/-- **The callback is out of sight**: something is passed after the title, and none of it is a
function. -/
def Unseen (p : PlacedBlock) : Prop :=
  p.call.arguments.tail ≠ [] ∧ ∀ n ∈ p.call.arguments.tail, n.isFunction = false

end PlacedBlock

/-- **What skips a test**: what the text tells, and a callback out of sight. -/
theorem skipped_iff_of_gives {root : Node} {around : List Block} {p : PlacedBlock} {t : TestCase}
    (hStands : StandsIn root around p.call) (hOpen : block? p.call = some p.block)
    (hTest : p.block.kind = .test) (hSkipped : p.skipped = around.any (·.skipped))
    (hGives : p.Gives t) (hTodo : p.block.todo = false) :
    t.skipped = true ↔ p.ToldSkipped around ∨ p.Unseen := by
  have hKind (hook : HookKind) : p.block.kind ≠ .hook hook := by simp [hTest]
  have opened := ofCall?_of_block? hOpen
  have outer : around.any (·.skipped) = true ↔ ∃ b ∈ around, b.Marked := by
    rw [List.any_eq_true]
    refine exists_congr fun b => and_congr_right fun hb => ?_
    obtain ⟨kind_eq, -, _, call, -, hCall⟩ := hStands.part_of b hb
    exact Block.skipped_iff_marked (ofCall?_of_block? hCall) fun hook => by simp [kind_eq]
  -- There is no callback for want of arguments, or for want of a function among them.
  have nothing : p.block.callback.isNone = true ↔ p.call.arguments.tail = [] ∨ p.Unseen := by
    rw [Option.isNone_iff_eq_none, Block.callback_eq_of_ofCall? opened hKind,
      Block.callbackOf_eq_none_iff, PlacedBlock.Unseen]
    cases p.call.arguments.tail with
    | nil => simp
    | cons n rest => simp
  rw [hGives.skipped_eq, hTodo, Bool.not_false, Bool.and_true, Bool.or_eq_true, Bool.or_eq_true,
    nothing, hSkipped, outer, Block.skipped_iff_marked opened hKind, PlacedBlock.ToldSkipped]
  simp only [or_assoc]

/-- **A test is skipped for want of a function.** The tests of a file are those of its test calls,
in order. One that is to be written at all is skipped exactly if the text tells so or its callback
is out of sight. So a callback that is passed by name or made by another call skips a test that
nothing marks; for all other tests the text tells whether they are skipped. -/
theorem skipped_without_function {parse : Parser} {path : Text} {content : Content}
    {framework : Option Framework} {s : Suite}
    (h : Suite.read parse path content framework = .ok s) :
    ∃ grammar text, Grammar.ofPath? path = some grammar ∧ content.string? = some text ∧
      List.Forall₂ (fun p t => p.Gives t ∧ ∃ around,
          StandsIn (parse grammar text).root around p.call ∧ block? p.call = some p.block ∧
          t.describes = around.map (·.title) ∧
          (t.todo = false →
            (t.skipped = true ↔ p.ToldSkipped around ∨ p.Unseen) ∧
            ((t.skipped = true ↔ p.ToldSkipped around) ↔ (p.Unseen → p.ToldSkipped around))))
        (PlacedBlock.tests (blocksOf (parse grammar text).root)) s.tests := by
  obtain ⟨grammar, text, tests, hGrammar, hText, hTests, tests_eq⟩ := exists_readFrom_of_read h
  refine ⟨grammar, text, hGrammar, hText, ?_⟩
  rw [tests_eq, List.forall₂_map_right_iff]
  have placed : ∀ p ∈ PlacedBlock.tests (blocksOf (parse grammar text).root),
      p ∈ blocksOf (parse grammar text).root ∧ p.block.kind = .test := fun p hp =>
    (List.mem_filter.mp hp).imp_right eq_of_beq
  refine ((List.forall₂_and_left _ _).mpr ⟨placed, forall₂_read hTests⟩).imp ?_
  rintro p t ⟨⟨hMem, hTest⟩, index, hRead⟩
  obtain ⟨around, hStands, hOpen, hTitles, hSkipped⟩ := mem_blocksOf_iff.mp hMem
  have hGives := PlacedBlock.gives_of_read hRead
  refine ⟨hGives, around, hStands, hOpen, hGives.describes_eq.trans hTitles, fun hTodo => ?_⟩
  have todo_eq : t.test.todo = p.block.todo := by
    obtain ⟨calls, test_eq⟩ := PlacedBlock.exists_testOf_of_read hRead
    rw [test_eq]
    rfl
  rw [todo_eq] at hTodo
  have skipped_iff := skipped_iff_of_gives hStands hOpen hTest hSkipped hGives hTodo
  refine ⟨skipped_iff, ?_⟩
  rw [skipped_iff]
  exact or_iff_left_iff_imp

/-- A file with one test, whose callback has a name: `it('adds', addsTwoNumbers)`. -/
def namedCallback : Node :=
  let node (kind field text : String) (children : List Node) : Node :=
    .mk { kind, field, text } children
  node "program" "" ""
    [node "call_expression" "" ""
      [node "identifier" "function" "it" [],
        node "arguments" "arguments" ""
          [node "string" "" "'adds'" [], node "identifier" "" "addsTwoNumbers" []]]]

/-- A parser that takes every text for that file. -/
def namedCallbackParser : Parser := fun _ _ => { root := namedCallback }

/-- Nothing marks that test, and it is skipped. -/
theorem skipped_without_function_named :
    ∃ s t p, Suite.read namedCallbackParser "sum.test.ts" (.text "") (some .vitest) = .ok s ∧
      s.tests = [t] ∧ PlacedBlock.tests (blocksOf namedCallback) = [p] ∧
      StandsIn namedCallback [] p.call ∧ p.Unseen ∧ ¬p.ToldSkipped [] ∧
      t.todo = false ∧ t.skipped = true := by
  have marks : ((Suite.read namedCallbackParser "sum.test.ts" (.text "")
      (some .vitest)).toOption.map fun s => s.tests.map fun t => (t.todo, t.describes)) =
        some [(false, [])] := by
    decide +kernel
  have calls : (PlacedBlock.tests (blocksOf namedCallback)).map (fun p =>
      (p.block.path, p.call.arguments.tail.map Node.isFunction)) =
        [([("it" : Text)], [false])] := by
    decide +kernel
  cases hRead : Suite.read namedCallbackParser "sum.test.ts" (.text "") (some .vitest) with
  | error e => simp [hRead, Except.toOption] at marks
  | ok s =>
    rw [hRead] at marks
    obtain ⟨t, hTests, hMarks⟩ := List.map_eq_singleton_iff.mp (Option.some.inj marks)
    obtain ⟨hTodo, hTitles⟩ := Prod.mk.inj hMarks
    obtain ⟨p, hBlocks, hCall⟩ := List.map_eq_singleton_iff.mp calls
    obtain ⟨hPath, hArguments⟩ := Prod.mk.inj hCall
    obtain ⟨n, hTail, hNamed⟩ := List.map_eq_singleton_iff.mp hArguments
    have unseen : p.Unseen := by simp [PlacedBlock.Unseen, hTail, hNamed]
    have unmarked : ¬p.block.Marked := by
      rw [Block.Marked, hPath]
      decide
    obtain ⟨_, _, -, -, skips⟩ := skipped_without_function hRead
    rw [show (namedCallbackParser _ _).root = namedCallback from rfl, hBlocks, hTests,
      List.forall₂_cons] at skips
    obtain ⟨⟨-, around, hStands, -, hDescribes, skipped_iff⟩, -⟩ := skips
    obtain rfl : around = [] := List.map_eq_nil_iff.mp (hDescribes.symm.trans hTitles)
    exact ⟨s, t, p, rfl, hTests, hBlocks, hStands, unseen,
      by simp [PlacedBlock.ToldSkipped, unmarked, hTail], hTodo,
      (skipped_iff hTodo).1.mpr (.inr unseen)⟩

end SuiteAudit
