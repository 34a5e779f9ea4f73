import SuiteAudit.Suite.OfTree

/-!
# Paths that open blocks

A describe block or a test is opened by a path that begins like one, with nothing but modifiers
behind (`opening?_eq_some_iff`). There are few such beginnings (`fronts`), so what holds of the
words of a path is settled by looking at each of them. The block has its title and callback of the
arguments, and its marks of the path (`titled?_eq`).
-/

namespace SuiteAudit

open Syntax

namespace Block

/-! ### Paths -/

/-- The words of paths that open a describe block or a test. -/
def openingWords : List Text :=
  describeRoots ++ testRoots ++ modifiers

theorem no_dot_of_mem_openingWords : ∀ w ∈ openingWords, CodePoint.char '.' ∉ w.points := by
  decide

/-- **What a root opens** that only modifiers follow. -/
theorem opening?_of_modifiers {root : Text} {rest : List Text}
    (h : ∀ w ∈ rest, w ∈ modifiers) : opening? (root :: rest) =
      if describeRoots.contains root then some (.describe, rest)
      else if testRoots.contains root then some (.test, rest)
      else (hookOf? root).map fun hook => (.hook hook, rest) := by
  have no_describe : (rest.headD "" == "describe") = false := by
    cases rest with
    | nil => decide
    | cons w rest =>
      have others : ∀ w ∈ modifiers, (w == "describe") = false := by decide
      exact others w (h w List.mem_cons_self)
  have no_hook : rest.head?.bind hookOf? = none := by
    cases rest with
    | nil => rfl
    | cons w rest =>
      have others : ∀ w ∈ modifiers, hookOf? w = none := by decide
      exact others w (h w List.mem_cons_self)
  rw [opening?, no_describe, no_hook]
  simp

/-- **What the path of a block begins with**, before its modifiers; those of hooks are left out. -/
def fronts : BlockKind → List (List Text)
  | .describe => ["test", "describe"] :: describeRoots.map fun (root : Text) => [root]
  | .test => testRoots.map fun (root : Text) => [root]
  | .hook _ => []

/-- **A path with modifiers behind opens a block exactly if it begins like one.** -/
theorem opening?_eq_some_iff {path rest : List Text} {kind : BlockKind}
    (hKind : ∀ hook, kind ≠ .hook hook) (h : ∀ w ∈ rest, w ∈ modifiers) :
    opening? path = some (kind, rest) ↔ ∃ front ∈ fronts kind, path = front ++ rest := by
  constructor
  · intro hOpens
    cases path with
    | nil => cases hOpens
    | cons root tail =>
      rw [opening?] at hOpens
      split at hOpens
      · next hTest =>
        obtain ⟨rfl, rfl⟩ := Prod.mk.inj (Option.some.inj hOpens)
        simp only [Bool.and_eq_true, beq_iff_eq] at hTest
        refine ⟨["test", "describe"], List.mem_cons_self, ?_⟩
        cases tail with
        | nil => exact absurd hTest.2 (by decide)
        | cons second tail =>
          rw [hTest.1, show second = "describe" from hTest.2]
          rfl
      · -- Hooks are asked for in between, and open no block of this kind.
        split at hOpens
        · next hook _ => exact absurd (Prod.mk.inj (Option.some.inj hOpens)).1.symm (hKind hook)
        · split at hOpens
          · next hRoot =>
            obtain ⟨rfl, rfl⟩ := Prod.mk.inj (Option.some.inj hOpens)
            rw [List.contains_iff_mem] at hRoot
            exact ⟨[root], List.mem_cons_of_mem _ (List.mem_map_of_mem hRoot), rfl⟩
          · split at hOpens
            · next hRoot =>
              obtain ⟨rfl, rfl⟩ := Prod.mk.inj (Option.some.inj hOpens)
              rw [List.contains_iff_mem] at hRoot
              exact ⟨[root], List.mem_map_of_mem hRoot, rfl⟩
            · obtain ⟨hook, -, hOpens⟩ := Option.map_eq_some_iff.mp hOpens
              exact absurd (Prod.mk.inj hOpens).1.symm (hKind hook)
  · rintro ⟨front, hFront, rfl⟩
    cases kind with
    | describe =>
      rcases List.mem_cons.mp hFront with rfl | hFront
      · rfl
      · obtain ⟨root, hRoot, rfl⟩ := List.mem_map.mp hFront
        rw [List.singleton_append, opening?_of_modifiers h,
          if_pos (List.contains_iff_mem.mpr hRoot)]
    | test =>
      obtain ⟨root, hRoot, rfl⟩ := List.mem_map.mp hFront
      have others : ∀ root ∈ testRoots, describeRoots.contains root = false := by decide
      rw [List.singleton_append, opening?_of_modifiers h, others root hRoot,
        if_neg Bool.false_ne_true, if_pos (List.contains_iff_mem.mpr hRoot)]
    | hook hook => exact absurd rfl (hKind hook)

/-- The words that a path begins with are known, and `each` is none of them. -/
theorem words_of_mem_fronts {kind : BlockKind} :
    ∀ front ∈ fronts kind,
      front ≠ [] ∧ ("each" : Text) ∉ front ∧ ∀ w ∈ front, w ∈ openingWords := by
  cases kind with
  | describe => decide
  | test => decide
  | hook hook => exact fun _ h => absurd h List.not_mem_nil

/-! ### Blocks -/

theorem titled?_eq {kind : BlockKind} {naming : Naming} {rest : List Text} {call : Node}
    (h : ∀ w ∈ rest, w ∈ modifiers) : titled? kind naming rest call = some
      { kind
        title := (call.arguments.head?.map Node.title).getD ""
        callback := callbackOf call.arguments.tail
        path := naming.path
        calleeNode := naming.calleeNode
        skipped :=
          Text.startsWith (naming.path.headD "") "x" || rest.contains "skip" ||
            rest.contains "fixme"
        focused := focusRoots.contains (naming.path.headD "") || rest.contains "only"
        todo := rest.contains "todo"
        table := naming.table } := by
  rw [titled?, if_pos (by simpa using h)]

theorem ofCall?_of_opening {call : Node} {naming : Naming} {kind : BlockKind} {rest : List Text}
    (hKind : ∀ hook, kind ≠ .hook hook) (hNaming : naming? call = some naming)
    (hOpening : opening? naming.path = some (kind, rest)) :
    ofCall? call = titled? kind naming rest call := by
  rw [ofCall?, hNaming, Option.bind_eq_bind, Option.bind_some, hOpening, Option.bind_eq_bind,
    Option.bind_some]
  cases kind with
  | hook hook => exact absurd rfl (hKind hook)
  | describe => rfl
  | test => rfl

/-- **What a call opens**: a hook, which has no marks, or a describe block or test, by a path that
begins like one and goes on with modifiers. -/
theorem ofCall?_cases {call : Node} {b : Block} (h : ofCall? call = some b) :
    (∃ kind naming, b =
      { kind := .hook kind, title := kind.name, callback := callbackOf call.arguments
        path := Naming.path naming, calleeNode := naming.calleeNode }) ∨
    ∃ naming front rest, naming? call = some naming ∧ naming.path = front ++ rest ∧
      front ∈ fronts b.kind ∧ (∀ w ∈ rest, w ∈ modifiers) ∧
        titled? b.kind naming rest call = some b := by
  have opened := h
  unfold ofCall? at h
  simp only [Option.bind_eq_bind, Option.bind_eq_some_iff] at h
  obtain ⟨naming, hNaming, ⟨kind, rest⟩, hOpening, h⟩ := h
  by_cases hHook : ∃ hook, kind = .hook hook
  · obtain ⟨hook, rfl⟩ := hHook
    have hooked : hook? hook naming rest call = some b := h
    unfold hook? at hooked
    split at hooked
    · exact .inl ⟨hook, naming, (Option.some.inj hooked).symm⟩
    · cases hooked
  · have hKind (hook : HookKind) : kind ≠ .hook hook := fun hEq => hHook ⟨hook, hEq⟩
    have titled : titled? kind naming rest call = some b :=
      (ofCall?_of_opening hKind hNaming hOpening).symm.trans opened
    have hRest : ∀ w ∈ rest, w ∈ modifiers := by
      unfold titled? at titled
      split at titled
      · next hRest => simpa using hRest
      · cases titled
    obtain rfl : b.kind = kind := by
      rw [titled?_eq hRest] at titled
      exact congrArg Block.kind (Option.some.inj titled).symm
    obtain ⟨front, hFront, path_eq⟩ := (opening?_eq_some_iff hKind hRest).mp hOpening
    exact .inr ⟨naming, front, rest, hNaming, path_eq, hFront, hRest, titled⟩

/-- **The callback of a describe block or test** is the last function behind the title. -/
theorem callback_eq_of_ofCall? {call : Node} {b : Block} (h : ofCall? call = some b)
    (hKind : ∀ hook, b.kind ≠ .hook hook) : b.callback = callbackOf call.arguments.tail := by
  rcases ofCall?_cases h with ⟨kind, naming, rfl⟩ | ⟨naming, front, rest, -, -, -, hRest, titled⟩
  · exact absurd rfl (hKind kind)
  · rw [titled?_eq hRest] at titled
    rw [← Option.some.inj titled]

end Block

end SuiteAudit
