import Mathlib.Data.List.TakeWhile
import SuiteAudit.Rule.Mocks
import SuiteAudit.Syntax.Grammar

/-!
# Mocked modules

A mock is taken for one of the module under test if the two files have the same stem, and a stem
ends at the first dot. So of a dotted name only the first word counts, and modules that share it are
not told apart (`mocks_judged_by_first_word`). Where no name has a dot the first word is the name,
and mocks are judged by that.
-/

namespace SuiteAudit

/-! ### Cutting at dots -/

namespace Chars

/-- The text up to the last `c`, if there is one. -/
def beforeLast (c : CodePoint) (s : List CodePoint) : List CodePoint :=
  s.take (s.length - (afterLast c s).length - 1)

theorem beforeFirst_of_not_mem {c : CodePoint} {s : List CodePoint} (h : c ∉ s) :
    beforeFirst c s = s := by
  rw [beforeFirst, List.takeWhile_eq_self_iff]
  intro d hd
  simpa using fun same : d = c => h (same ▸ hd)

/-- What follows a `c` does not count for what is before the first one. -/
theorem beforeFirst_append_cons (c : CodePoint) (s rest : List CodePoint) :
    beforeFirst c (s ++ c :: rest) = beforeFirst c s := by
  rw [beforeFirst, beforeFirst, List.takeWhile_append]
  split
  · next whole =>
    rw [List.takeWhile_cons_of_neg (by simp), List.append_nil]
    exact ((List.takeWhile_prefix _).eq_of_length whole).symm
  · rfl

theorem afterLast_append_cons {c : CodePoint} {tail : List CodePoint} (front : List CodePoint)
    (h : c ∉ tail) : afterLast c (front ++ c :: tail) = tail := by
  have reverse_eq : (front ++ c :: tail).reverse = tail.reverse ++ c :: front.reverse := by simp
  have all_read : beforeFirst c tail.reverse = tail.reverse :=
    beforeFirst_of_not_mem (by simpa using h)
  show (beforeFirst c (front ++ c :: tail).reverse).reverse = tail
  rw [reverse_eq, beforeFirst_append_cons, all_read, List.reverse_reverse]

/-- **A text is cut in two at its last `c`.** -/
theorem beforeLast_append_cons_afterLast {c : CodePoint} {s : List CodePoint} (h : c ∈ s) :
    beforeLast c s ++ c :: afterLast c s = s := by
  obtain ⟨tail, front, reverse_eq, hTail⟩ :=
    List.eq_append_cons_of_mem (List.mem_reverse.mpr h)
  obtain rfl : s = front.reverse ++ c :: tail.reverse := by
    rw [← List.reverse_reverse s, reverse_eq]
    simp
  rw [beforeLast, afterLast_append_cons _ (by simpa using hTail), List.take_left' (by simp; omega)]

end Chars

namespace Text

theorem lowerFrom_eq_nil_iff {before s : List CodePoint} : lowerFrom before s = [] ↔ s = [] := by
  cases s with
  | nil => simp [lowerFrom]
  | cons p rest =>
    cases p with
    | surrogate h => simp [lowerFrom]
    | char c =>
      have some_form : lowerWithin before c rest ≠ [] := by
        unfold lowerWithin
        split
        · split <;> simp
        · split <;> simp
      simp [lowerFrom, some_form]

end Text

open Syntax

/-! ### Names of modules -/

/-- Whether a suffix is one of scripts, in whatever case. -/
def isScriptSuffix (suffix : Text) : Bool :=
  (Grammar.suffixes.lookup (Text.lower suffix)).isSome

/-- A file name without the suffix of scripts. -/
def withoutSuffix (file : Text) : Text :=
  if file.points.contains '.' && isScriptSuffix ⟨'.' :: Chars.afterLast '.' file.points⟩ then
    Text.through (Chars.beforeLast '.') file
  else file

/-- **The name of the module that a specifier points to**: its last component, without the suffix of
scripts. -/
def moduleName (target : Text) : Text :=
  withoutSuffix (Text.fileName target)

/-- **A file tests the module of a name**: it has that name, the mark of a test file, and a suffix
of scripts. -/
def TestsModule (path name : Text) : Prop :=
  ∃ mark ∈ (["test", "spec"] : List Text), ∃ extension, isScriptSuffix ("." ++ extension) = true ∧
    Text.fileName path = name ++ "." ++ mark ++ "." ++ extension

/-- The first word of a dotted name, in lower case. -/
def firstWord (name : Text) : Text :=
  Text.lower (Text.beforeFirst '.' name)

theorem firstWord_eq_empty_iff {name : Text} :
    firstWord name = "" ↔ name = "" ∨ Text.startsWith name "." = true := by
  have empty_iff (s : Text) : s = "" ↔ s.points = [] := by
    cases s
    exact Text.mk.injEq _ _ ▸ Iff.rfl
  rw [empty_iff, empty_iff]
  show Text.lowerFrom [] (Chars.beforeFirst '.' name.points) = [] ↔ _
  rw [Text.lowerFrom_eq_nil_iff]
  cases hName : name.points with
  | nil => simp [Chars.beforeFirst]
  | cons c rest =>
    have starts_iff : Text.startsWith name "." = true ↔ c = '.' := by
      rw [Text.startsWith, hName]
      show (([.char '.'] : List CodePoint).isPrefixOf (c :: rest)) = true ↔ _
      rw [List.isPrefixOf_iff_prefix, List.cons_prefix_cons, and_iff_left List.nil_prefix, eq_comm]
    rw [starts_iff]
    by_cases hc : c = '.' <;> simp [Chars.beforeFirst, hc]

/-- A name without dots is its own first word. -/
theorem firstWord_of_undotted {name : Text} (h : .char '.' ∉ name.points) :
    firstWord name = Text.lower name := by
  rw [firstWord, Text.beforeFirst, Text.through, Chars.beforeFirst_of_not_mem h]

theorem firstWord_append_dot (name rest : Text) :
    firstWord (name ++ "." ++ rest) = firstWord name := by
  have points_eq : (name ++ "." ++ rest).points = name.points ++ .char '.' :: rest.points := by
    show (name.points ++ [.char '.']) ++ rest.points = _
    simp
  rw [firstWord, Text.beforeFirst, Text.through, points_eq, Chars.beforeFirst_append_cons]
  rfl

theorem firstWord_withoutSuffix (file : Text) :
    firstWord (withoutSuffix file) = firstWord file := by
  rw [withoutSuffix]
  split
  · next h =>
    obtain ⟨dotted, -⟩ := Bool.and_eq_true_iff.mp h
    have cut := Chars.beforeLast_append_cons_afterLast (List.contains_iff_mem.mp dotted)
    rw [firstWord, firstWord, Text.beforeFirst, Text.beforeFirst, Text.through, Text.through,
      Text.through, ← Chars.beforeFirst_append_cons _ _ (Chars.afterLast '.' file.points), cut]
  · rfl

/-- **The stem of a specifier** is the first word of its module. -/
theorem fileStem_eq_moduleName (target : Text) :
    Text.fileStem target = firstWord (moduleName target) :=
  (firstWord_withoutSuffix _).symm

/-- **The stem of a test file** is the first word of the module that it tests. -/
theorem TestsModule.fileStem_eq {path name : Text} (h : TestsModule path name) :
    Text.fileStem path = firstWord name := by
  obtain ⟨mark, -, extension, -, file_eq⟩ := h
  show firstWord (Text.fileName path) = firstWord name
  rw [file_eq, firstWord_append_dot, firstWord_append_dot]

namespace Rules

/-! ### Mocks of the module under test -/

/-- **Whether a mock shares the first word** of a module: it stands in for a module whose name
begins with the same word, in whatever case. -/
def sharesFirstWord (name : Text) (m : Mock) : Bool :=
  m.kind == .module && firstWord name != "" && firstWord (moduleName m.target) == firstWord name

/-- What a mock of the module under test is told. -/
def replacementFinding (m : Mock) : Finding where
  message := m.api ++ "('" ++ m.target ++ "') replaces the module this file is testing"
  span := m.span

theorem run_mockAbuse {ctx : RuleContext} {name : Text} (h : TestsModule ctx.suite.path name) :
    mockAbuse.run ctx =
      .ok ((ctx.suite.mocks.filter (sharesFirstWord name)).map fun m =>
        mockAbuse.issue (replacementFinding m)) := by
  have findings_eq : (if Text.fileStem ctx.suite.path == "" then []
      else (ctx.suite.mocks.filter (replacesModule (Text.fileStem ctx.suite.path))).map
        replacementFinding) =
        (ctx.suite.mocks.filter (sharesFirstWord name)).map replacementFinding := by
    rw [h.fileStem_eq]
    split
    · next nothing =>
      have none_shares : ctx.suite.mocks.filter (sharesFirstWord name) = [] := by
        rw [List.filter_eq_nil_iff]
        intro m _
        simp [sharesFirstWord, eq_of_beq nothing]
      rw [none_shares, List.map_nil]
    · next something =>
      congr 2
      funext m
      have ne_empty : firstWord name ≠ "" := by simpa using something
      -- An empty target has an empty stem, so it need not be ruled out.
      have target_ne : (firstWord (moduleName m.target) == firstWord name) = true →
          (m.target != "") = true := by
        intro same
        rw [bne_iff_ne]
        rintro target_eq
        rw [target_eq] at same
        exact ne_empty (eq_of_beq same).symm
      rw [replacesModule, sharesFirstWord, fileStem_eq_moduleName, bne_iff_ne.mpr ne_empty,
        Bool.and_true]
      cases hSame : firstWord (moduleName m.target) == firstWord name with
      | false => rw [Bool.and_false, Bool.and_false]
      | true => rw [target_ne hSame, Bool.and_true]
  have issues_eq := congrArg (List.map mockAbuse.issue) findings_eq
  rw [List.map_map] at issues_eq
  exact congrArg Except.ok issues_eq

theorem sharesFirstWord_iff {name : Text} {m : Mock} (h : m.kind = .module) :
    sharesFirstWord name m = true ↔
      (name ≠ "" ∧ Text.startsWith name "." = false) ∧
        firstWord (moduleName m.target) = firstWord name := by
  rw [sharesFirstWord, h, Bool.and_eq_true, Bool.and_eq_true, bne_iff_ne, beq_iff_eq, beq_iff_eq,
    and_iff_right rfl, Ne, firstWord_eq_empty_iff, not_or, Bool.not_eq_true]

/-- **Mocks are judged by the first word.** In a file that tests a module the issues are those for
the mocks that share the first word of its name. So a mock of the very module is reported unless the
name begins with a dot. And a mock of another module is reported where its name begins with the same
word, which takes a dot in one of the two names. -/
theorem mocks_judged_by_first_word {ctx : RuleContext} {name : Text}
    (h : TestsModule ctx.suite.path name) :
    mockAbuse.run ctx =
        .ok ((ctx.suite.mocks.filter (sharesFirstWord name)).map fun m =>
          mockAbuse.issue (replacementFinding m)) ∧
      ∀ m : Mock, m.kind = .module →
        (Text.fileName m.target = name ∨ moduleName m.target = name →
          (sharesFirstWord name m = true ↔ name ≠ "" ∧ Text.startsWith name "." = false)) ∧
        (Text.lower (moduleName m.target) ≠ Text.lower name →
          (sharesFirstWord name m = true ↔
            (name ≠ "" ∧ Text.startsWith name "." = false) ∧
              firstWord (moduleName m.target) = firstWord name) ∧
          (.char '.' ∉ name.points → .char '.' ∉ (moduleName m.target).points →
            sharesFirstWord name m = false)) := by
  refine ⟨run_mockAbuse h, fun m hKind => ⟨fun very => ?_, fun other => ?_⟩⟩
  · rw [sharesFirstWord_iff hKind, and_iff_left]
    rcases very with rfl | rfl
    · exact firstWord_withoutSuffix _
    · rfl
  · refine ⟨sharesFirstWord_iff hKind, fun name_undotted module_undotted => ?_⟩
    rw [← Bool.not_eq_true, sharesFirstWord_iff hKind, firstWord_of_undotted name_undotted,
      firstWord_of_undotted module_undotted]
    exact fun same => other same.2

/-- A file that tests the service of users and mocks their model. -/
def userServiceContext : RuleContext where
  suite := { path := "src/user.service.test.ts"
             mocks := [{ api := "jest.mock", kind := .module, target := "./user.model" }] }

/-- The model is not the service, but its mock is reported. -/
theorem mocks_judged_by_first_word_dotted :
    TestsModule userServiceContext.suite.path "user.service" ∧
      Text.lower (moduleName "./user.model") ≠ Text.lower "user.service" ∧
      mockAbuse.run userServiceContext =
        .ok (userServiceContext.suite.mocks.map fun m =>
          mockAbuse.issue (replacementFinding m)) := by
  have tests : TestsModule userServiceContext.suite.path "user.service" :=
    ⟨"test", by decide, "ts", by decide +kernel, by decide +kernel⟩
  have differs : Text.lower (moduleName "./user.model") ≠ Text.lower "user.service" := by
    decide +kernel
  obtain ⟨issues_eq, judged⟩ := mocks_judged_by_first_word tests
  have shares : sharesFirstWord "user.service"
      { api := "jest.mock", kind := .module, target := "./user.model" } = true :=
    (((judged _ rfl).2 differs).1).mpr (by decide +kernel)
  refine ⟨tests, differs, ?_⟩
  rw [issues_eq, List.filter_eq_self.mpr (by simpa [userServiceContext] using shares)]

end Rules

end SuiteAudit
